import NetConsole.Proofs.StoreRuns
import NetConsole.Proofs.Secrets

/-! Reading profiles from the in-memory store. A read of a stored profile ends the same way from
every state and changes only the journal and the secret reads, so a listing reads the profiles in
path order up to the first that fails. -/

namespace NetConsole

def settle {ε σ α : Type} : Except ε α → σ → EStateM.Result ε σ α
  | .ok a, s => .ok a s
  | .error e, s => .error e s

@[simp] theorem resultOutcome_settle {ε σ α : Type} (outcome : Except ε α) (s : σ) :
    resultOutcome (settle outcome s) = outcome := by
  cases outcome <;> rfl

@[simp] theorem resultState_settle {ε σ α : Type} (outcome : Except ε α) (s : σ) :
    resultState (settle outcome s) = s := by
  cases outcome <;> rfl

theorem exists_first_error {α β ε : Type} {f : α → Except ε β} :
    ∀ {l : List α} {e : ε}, l.mapM f = .error e →
      ∃ (i : Nat) (x : α), l[i]? = some x ∧
        (∀ j < i, ∀ y, l[j]? = some y → ∃ c, f y = .ok c) ∧ f x = .error e
  | [], _, failed => by cases failed
  | x :: l, e, failed => by
      rw [List.mapM_cons] at failed
      cases fx : f x with
      | error e' =>
          rw [fx] at failed
          cases failed
          exact ⟨0, x, rfl, fun j earlier => absurd earlier (Nat.not_lt_zero j), fx⟩
      | ok c =>
          cases rest : l.mapM f with
          | ok cs =>
              rw [fx, rest] at failed
              cases failed
          | error e' =>
              rw [fx, rest] at failed
              cases failed
              obtain ⟨i, y, at_i, before, fy⟩ := exists_first_error rest
              refine ⟨i + 1, y, at_i, fun j earlier z at_j => ?_, fy⟩
              cases j with
              | zero =>
                  cases at_j
                  exact ⟨c, fx⟩
              | succ j => exact before j (Nat.lt_of_succ_lt_succ earlier) z at_j

structure SortedById (profiles sorted : List ConnProfile) : Prop where
  perm : sorted.Perm profiles
  ordered : sorted.Pairwise fun c c' => c.settings.conn.id ≤ c'.settings.conn.id
  stable : ∀ id,
    sorted.filter (·.settings.conn.id == id) = profiles.filter (·.settings.conn.id == id)

theorem sortedById_mergeSort (profiles : List ConnProfile) :
    SortedById profiles
      (profiles.mergeSort fun c c' => decide (c.settings.conn.id ≤ c'.settings.conn.id)) := by
  have trans : ∀ c c' c'' : ConnProfile, decide (c.settings.conn.id ≤ c'.settings.conn.id) →
      decide (c'.settings.conn.id ≤ c''.settings.conn.id) →
      decide (c.settings.conn.id ≤ c''.settings.conn.id) := by
    intro c c' c'' first second
    exact decide_eq_true (String.le_trans (of_decide_eq_true first) (of_decide_eq_true second))
  have total : ∀ c c' : ConnProfile, (decide (c.settings.conn.id ≤ c'.settings.conn.id) ||
      decide (c'.settings.conn.id ≤ c.settings.conn.id)) = true := by
    intro c c'
    rcases String.le_total c.settings.conn.id c'.settings.conn.id with le | le <;> simp [le]
  refine ⟨List.mergeSort_perm _ _, ?_, fun id => ?_⟩
  · exact (List.pairwise_mergeSort trans total profiles).imp of_decide_eq_true
  · -- the profiles of one ID are sorted already, so they stay in order in the result
    have sameId : (profiles.filter (·.settings.conn.id == id)).Pairwise
        fun c c' => decide (c.settings.conn.id ≤ c'.settings.conn.id) := by
      refine List.pairwise_of_forall_mem_list fun c mem c' mem' => ?_
      rw [(beq_iff_eq.mp (List.mem_filter.mp mem).2), (beq_iff_eq.mp (List.mem_filter.mp mem').2)]
      exact decide_eq_true (String.le_refl id)
    have kept := (List.sublist_mergeSort trans total sameId (List.filter_sublist)).filter
      (·.settings.conn.id == id)
    simp only [List.filter_filter, Bool.and_self] at kept
    exact (kept.eq_of_length ((List.mergeSort_perm _ _).filter _).length_eq.symm).symm

theorem ProfileStore.withContext_outcome {σ α : Type} (c : String) (m : EStateM Error σ α)
    (s : σ) :
    resultOutcome ((ProfileStore.withContext c m).run s) =
        (resultOutcome (m.run s)).mapError (.context c) ∧
      resultState ((ProfileStore.withContext c m).run s) = resultState (m.run s) := by
  rw [ProfileStore.withContext, EStateM.run_tryCatch]
  cases m.run s <;> exact ⟨rfl, rfl⟩

theorem ProfileStore.withContext_eq_error {σ α : Type} {c : String} {m : EStateM Error σ α}
    {s s' : σ} {e : Error} (ran : m.run s = .error e s') :
    (ProfileStore.withContext c m).run s = .error (.context c e) s' := by
  rw [ProfileStore.withContext, EStateM.run_tryCatch, ran]
  rfl

namespace MemoryBackend

open ProfileStore (dump)

def advance (b : MemoryBackend) (n : Nat) (notes : List LogRecord) : MemoryBackend :=
  { b with secretReads := b.secretReads + n, journal := b.journal ++ notes }

theorem advance_advance (b : MemoryBackend) (n m : Nat) (notes notes' : List LogRecord) :
    (b.advance n notes).advance m notes' = b.advance (n + m) (notes ++ notes') := by
  simp only [advance, Nat.add_assoc, List.append_assoc]

theorem advance_zero_nil (b : MemoryBackend) : b.advance 0 [] = b := by
  simp only [advance, Nat.add_zero, List.append_nil]

theorem record_run (b : MemoryBackend) (r : LogRecord) :
    (ProfileStore.record r : EStateM Error MemoryBackend Unit).run b = .ok () (b.advance 0 [r]) := by
  simp only [ProfileStore.record, EStateM.run_modify, advance, Nat.add_zero]
  rfl

theorem records_run (b : MemoryBackend) (rs : List LogRecord) :
    (ProfileStore.records rs : EStateM Error MemoryBackend Unit).run b = .ok () (b.advance 0 rs) := by
  induction rs generalizing b with
  | nil => rw [advance_zero_nil]; rfl
  | cons r rs ih =>
      -- `List.forM` on a cons is the head's run followed by the rest's, by definition
      change (ProfileStore.record r >>= fun _ => ProfileStore.records rs).run b = _
      rw [EStateM.run_bind, record_run]
      dsimp only
      rw [ih, advance_advance]
      rfl

theorem profileFor_run_eq {b : MemoryBackend} {i : Nat} {p : StoredProfile} (call : String)
    (stored : b.profiles[i]? = some p) :
    (profileFor (settingsPath (i + 1)) call).run b =
      if call ∈ p.failing then .error (callFailure call) b else .ok (i, p) b := by
  by_cases failing : call ∈ p.failing
  · have inside : i < b.profiles.length := (List.getElem?_eq_some_iff.mp stored).1
    simp only [profileFor, EStateM.run_bind, EStateM.run_get, indexOf?_settingsPath_of_lt inside,
      stored, List.contains_iff_mem.mpr failing, if_true, failing]
    rfl
  · rw [if_neg failing, profileFor_run stored failing]

/-- A call on the profile at a path: it fails if the profile fails the call, and otherwise goes on
with the profile. -/
theorem profileFor_bind_run {β : Type} {b : MemoryBackend} {i : Nat} {p : StoredProfile}
    (call : String) (stored : b.profiles[i]? = some p)
    (k : Nat × StoredProfile → EStateM Error MemoryBackend β) :
    (profileFor (settingsPath (i + 1)) call >>= k).run b =
      if call ∈ p.failing then .error (callFailure call) b else (k (i, p)).run b := by
  rw [EStateM.run_bind, profileFor_run_eq call stored]
  by_cases failing : call ∈ p.failing
  · rw [if_pos failing, if_pos failing]
  · rw [if_neg failing, if_neg failing]

theorem connectionMeta_run_eq {b : MemoryBackend} {i : Nat} {p : StoredProfile}
    (stored : b.profiles[i]? = some p) :
    (SettingsBackend.connectionMeta (settingsPath (i + 1)) :
      EStateM Error MemoryBackend ProfileMeta).run b =
      if "meta" ∈ p.failing then .error (callFailure "meta") b else .ok p.profileMeta b := by
  simp only [SettingsBackend.connectionMeta, profileFor_bind_run "meta" stored]
  rfl

theorem getSettings_run_eq {b : MemoryBackend} {i : Nat} {p : StoredProfile}
    (stored : b.profiles[i]? = some p) :
    (SettingsBackend.getSettings (settingsPath (i + 1)) :
      EStateM Error MemoryBackend RawSettings).run b =
      if "get_settings" ∈ p.failing then .error (callFailure "get_settings") b
      else .ok p.settings b := by
  simp only [SettingsBackend.getSettings, profileFor_bind_run "get_settings" stored]
  rfl

/-- The secrets a dump of the profile reads the PSK from: those of a Wi-Fi profile whose secrets
can be read. -/
def secretsRead (p : StoredProfile) : Option RawSettings :=
  if ProfileSettings.isWifiProfile p.settings ∧ "get_secrets" ∉ p.failing then p.secrets else none

/-- Reading the secrets of a Wi-Fi profile counts one read, and a read that fails is handled and
comes to none. -/
theorem secrets_read_run {b : MemoryBackend} {i : Nat} {p : StoredProfile}
    {handler : Error → EStateM Error MemoryBackend (Option RawSettings)}
    {r : EStateM.Result Error MemoryBackend (Option RawSettings)}
    (read : (tryCatch (some <$> SettingsBackend.getSecrets (settingsPath (i + 1))
      Setting.wifiSecurity) handler).run b = r)
    (stored : b.profiles[i]? = some p) (wifi : ProfileSettings.isWifiProfile p.settings = true)
    (handles : ∀ e s, ∃ notes, (handler e).run s = .ok none (s.advance 0 notes)) :
    ∃ notes, r = .ok (secretsRead p) (b.advance 1 notes) := by
  subst read
  rw [EStateM.run_tryCatch, map_eq_pure_bind, EStateM.run_bind]
  simp only [SettingsBackend.getSecrets, EStateM.run_bind, EStateM.run_modify,
    profileFor_run_eq (b := { b with secretReads := b.secretReads + 1 }) "get_secrets" stored]
  by_cases failing : "get_secrets" ∈ p.failing
  · -- a failed read is handled: noted, and read as none
    obtain ⟨notes, handled⟩ :=
      handles (callFailure "get_secrets") { b with secretReads := b.secretReads + 1 }
    simp only [if_pos failing]
    rw [handled]
    exact ⟨notes, by simp [secretsRead, failing, wifi, advance]⟩
  · simp only [if_neg failing]
    cases secrets : p.secrets with
    | none =>
        obtain ⟨notes, handled⟩ := handles (callFailure ("secrets of " ++ Setting.wifiSecurity))
          { b with secretReads := b.secretReads + 1 }
        simp only [EStateM.run_throw_any]
        rw [handled]
        exact ⟨notes, by simp [secretsRead, failing, wifi, secrets, advance]⟩
    | some found =>
        dsimp only
        exact ⟨[], by simp [secretsRead, failing, wifi, secrets, advance]⟩

/-- A dump of the profile asks for its secrets: its metadata and settings read, and the store
takes it for a Wi-Fi profile. -/
def asksSecrets (p : StoredProfile) : Bool :=
  decide ("meta" ∉ p.failing ∧ "get_settings" ∉ p.failing) &&
    ProfileSettings.isWifiProfile p.settings

def connProfile (m : ProfileMeta) (settings : ProfileSettings) : ConnProfile :=
  { unsaved := m.unsaved, flags := ⟨m.flags.toUInt32⟩, filename := m.filename, settings }

def dumpOutcome (p : StoredProfile) : Except Error ConnProfile :=
  if "meta" ∈ p.failing then .error (callFailure "meta")
  else if "get_settings" ∈ p.failing then
    .error (.context "couldn't get settings" (callFailure "get_settings"))
  else (ProfileSettings.decode p.settings (secretsRead p)).map (connProfile p.profileMeta)

/-- A dump of a stored profile, from any state: it ends in `dumpOutcome`, counts one secret read
when it asks for the secrets, and adds only to the journal. -/
theorem dump_run {b : MemoryBackend} {i : Nat} {p : StoredProfile}
    (stored : b.profiles[i]? = some p) :
    ∃ notes, (dump (settingsPath (i + 1))).run b =
      settle (dumpOutcome p) (b.advance (if asksSecrets p then 1 else 0) notes) := by
  unfold dump
  rw [EStateM.run_bind, record_run]
  dsimp only
  rw [EStateM.run_bind, connectionMeta_run_eq (b := b.advance 0 _) stored]
  by_cases metaFails : "meta" ∈ p.failing
  · have asks : asksSecrets p = false := by simp [asksSecrets, metaFails]
    rw [if_pos metaFails, dumpOutcome, if_pos metaFails, asks]
    exact ⟨_, rfl⟩
  rw [if_neg metaFails]
  dsimp only
  rw [EStateM.run_bind, ProfileStore.withContext, EStateM.run_tryCatch,
    getSettings_run_eq (b := b.advance 0 _) stored]
  by_cases settingsFail : "get_settings" ∈ p.failing
  · have asks : asksSecrets p = false := by simp [asksSecrets, settingsFail]
    rw [if_pos settingsFail, dumpOutcome, if_neg metaFails, if_pos settingsFail, asks]
    exact ⟨_, rfl⟩
  rw [if_neg settingsFail]
  dsimp only
  have asks : asksSecrets p = ProfileSettings.isWifiProfile p.settings := by
    simp [asksSecrets, metaFails, settingsFail]
  rw [dumpOutcome, if_neg metaFails, if_neg settingsFail, asks]
  by_cases wifi : ProfileSettings.isWifiProfile p.settings = true
  · rw [if_pos wifi, if_pos wifi, EStateM.run_bind]
    split
    next secrets s read =>
      obtain ⟨notes, same⟩ := secrets_read_run read stored wifi fun e s => ⟨_, rfl⟩
      cases same
      rw [EStateM.run_bind, records_run, advance_advance, advance_advance]
      dsimp only
      split
      next settings decoded => exact ⟨_, by rw [decoded]; rfl⟩
      next e decoded => exact ⟨_, by rw [decoded]; rfl⟩
    next e s read =>
      obtain ⟨notes, same⟩ := secrets_read_run read stored wifi fun e s => ⟨_, rfl⟩
      cases same
  · have unread : secretsRead p = none := by simp [secretsRead, wifi]
    rw [if_neg wifi, if_neg wifi, unread, EStateM.run_bind, EStateM.run_pure]
    dsimp only
    rw [EStateM.run_bind, records_run, advance_advance]
    dsimp only
    split
    next settings decoded => exact ⟨_, by rw [decoded]; rfl⟩
    next e decoded => exact ⟨_, by rw [decoded]; rfl⟩

theorem dump_outcome {b : MemoryBackend} {i : Nat} {p : StoredProfile}
    (stored : b.profiles[i]? = some p) :
    resultOutcome ((dump (settingsPath (i + 1))).run b) = dumpOutcome p := by
  obtain ⟨notes, ran⟩ := dump_run stored
  rw [ran, resultOutcome_settle]

/-- One step of the listing loop: a profile that reads well, then the paths after it from the
state its read left. -/
theorem dumps_cons_ok {b : MemoryBackend} {i : Nat} {p : StoredProfile} {c : ConnProfile}
    (stored : b.profiles[i]? = some p) (first : dumpOutcome p = .ok c) (rest : List String) :
    ∃ notes, ((settingsPath (i + 1) :: rest).mapM fun path =>
        ProfileStore.withContext ("couldn't dump connection profile " ++ path) (dump path)).run b =
      ((rest.mapM fun path =>
          ProfileStore.withContext ("couldn't dump connection profile " ++ path) (dump path)) >>=
        fun cs => pure (c :: cs)).run (b.advance (if asksSecrets p then 1 else 0) notes) := by
  obtain ⟨notes, ran⟩ := dump_run stored
  rw [first] at ran
  refine ⟨notes, ?_⟩
  rw [List.mapM_cons, EStateM.run_bind, ProfileStore.withContext_eq_ok.mpr ran]

theorem dumps_run_ok {qs : List (StoredProfile × Nat)} :
    ∀ {b : MemoryBackend} {cs : List ConnProfile}, (∀ q ∈ qs, b.profiles[q.2]? = some q.1) →
      (qs.map Prod.fst).mapM dumpOutcome = .ok cs →
      ∃ notes, ((qs.map fun q => settingsPath (q.2 + 1)).mapM fun path =>
          ProfileStore.withContext ("couldn't dump connection profile " ++ path) (dump path)).run b =
        .ok cs (b.advance ((qs.map Prod.fst).countP asksSecrets) notes) := by
  induction qs with
  | nil =>
      intro b cs _ read
      cases read
      exact ⟨[], by simp only [List.map_nil, List.countP_nil, advance_zero_nil]; rfl⟩
  | cons q qs ih =>
      intro b cs stored read
      obtain ⟨p, i⟩ := q
      rw [List.map_cons, List.mapM_cons, bind_eq_ok_iff] at read
      obtain ⟨c, first, read⟩ := read
      rw [bind_eq_ok_iff] at read
      obtain ⟨cs', rest, same⟩ := read
      rw [pure_eq_ok_iff] at same
      subst same
      -- the first profile reads, and the rest run from the state its read left
      obtain ⟨notes, ran⟩ := dumps_cons_ok (stored _ List.mem_cons_self) first _
      obtain ⟨notes', ranRest⟩ := ih (b := b.advance (if asksSecrets p then 1 else 0) notes)
        (fun q mem => stored q (List.mem_cons_of_mem _ mem)) rest
      refine ⟨notes ++ notes', ?_⟩
      rw [List.map_cons, ran, EStateM.run_bind, ranRest, advance_advance, List.map_cons,
        List.countP_cons, Nat.add_comm (List.countP _ (qs.map _))]
      rfl

/-- Reading profiles in turn up to the first that fails: the error names its path, and no later
profile is read. -/
theorem dumps_run_error {p : StoredProfile} {i : Nat} {post : List (StoredProfile × Nat)}
    {e : Error} (fails : dumpOutcome p = .error e) {pre : List (StoredProfile × Nat)} :
    ∀ {b : MemoryBackend}, (∀ q ∈ pre ++ (p, i) :: post, b.profiles[q.2]? = some q.1) →
      (∀ q ∈ pre, ∃ c, dumpOutcome q.1 = .ok c) →
      ∃ notes, (((pre ++ (p, i) :: post).map fun q => settingsPath (q.2 + 1)).mapM fun path =>
          ProfileStore.withContext ("couldn't dump connection profile " ++ path) (dump path)).run b =
        .error (.context ("couldn't dump connection profile " ++ settingsPath (i + 1)) e)
          (b.advance (((pre ++ [(p, i)]).map Prod.fst).countP asksSecrets) notes) := by
  induction pre with
  | nil =>
      intro b stored _
      obtain ⟨notes, ran⟩ := dump_run (i := i) (p := p) (stored _ List.mem_cons_self)
      rw [fails] at ran
      refine ⟨notes, ?_⟩
      rw [List.nil_append, List.map_cons, List.mapM_cons, EStateM.run_bind,
        ProfileStore.withContext_eq_error ran, List.nil_append, List.map_cons, List.map_nil,
        List.countP_cons, List.countP_nil, Nat.zero_add]
  | cons q pre ih =>
      intro b stored before
      obtain ⟨p', i'⟩ := q
      obtain ⟨c, first⟩ := before _ List.mem_cons_self
      obtain ⟨notes, ran⟩ := dumps_cons_ok (stored _ List.mem_cons_self) first _
      obtain ⟨notes', ranRest⟩ := ih (b := b.advance (if asksSecrets p' then 1 else 0) notes)
        (fun q mem => stored q (List.mem_cons_of_mem _ mem))
        (fun q mem => before q (List.mem_cons_of_mem _ mem))
      refine ⟨notes ++ notes', ?_⟩
      rw [List.cons_append, List.map_cons, ran, EStateM.run_bind, ranRest, advance_advance,
        List.cons_append, List.map_cons, List.countP_cons,
        Nat.add_comm (List.countP _ (List.map _ (pre ++ _)))]

theorem listConnections_run (b : MemoryBackend) :
    (SettingsBackend.listConnections : EStateM Error MemoryBackend (List String)).run b =
      if b.listFails then .error (callFailure "list") b else .ok b.paths b := by
  simp only [SettingsBackend.listConnections, EStateM.run_bind, EStateM.run_get]
  by_cases fails : b.listFails = true
  · rw [if_pos fails, if_pos fails]
    rfl
  · rw [if_neg fails, if_neg fails]
    rfl

theorem paths_eq_map_zipIdx (b : MemoryBackend) :
    b.paths = b.profiles.zipIdx.map fun q => settingsPath (q.2 + 1) := by
  rw [paths, List.range_eq_range', ← List.zipIdx_map_snd 0 b.profiles, List.map_map]
  rfl

theorem stored_of_mem_zipIdx {b : MemoryBackend} {q : StoredProfile × Nat}
    (mem : q ∈ b.profiles.zipIdx) : b.profiles[q.2]? = some q.1 :=
  List.mem_zipIdx_iff_getElem?.mp mem

theorem zipIdx_eq_split {α : Type} {l : List α} {i : Nat} {x : α} (at_i : l[i]? = some x) :
    l.zipIdx = l.zipIdx.take i ++ (x, i) :: l.zipIdx.drop (i + 1) := by
  obtain ⟨inside, same⟩ := List.getElem?_eq_some_iff.mp at_i
  have inside' : i < l.zipIdx.length := by rwa [List.length_zipIdx]
  calc l.zipIdx = l.zipIdx.take i ++ l.zipIdx.drop i := (List.take_append_drop i _).symm
    _ = _ := by rw [List.drop_eq_getElem_cons inside', List.getElem_zipIdx, Nat.zero_add, same]

theorem mem_zipIdx_take {α : Type} {l : List α} {i : Nat} {q : α × Nat}
    (mem : q ∈ l.zipIdx.take i) : q.2 < i ∧ l[q.2]? = some q.1 := by
  obtain ⟨j, bound, rfl⟩ := List.mem_take_iff_getElem.mp mem
  rw [List.getElem_zipIdx, Nat.zero_add]
  exact ⟨Nat.lt_of_lt_of_le bound (Nat.min_le_left _ _), List.getElem?_eq_getElem _⟩

theorem list_run_of_listFails {b : MemoryBackend} (fails : b.listFails = true) :
    ProfileStore.list.run b =
      .error (.context "couldn't list connection profiles" (callFailure "list")) b := by
  have listed := listConnections_run b
  rw [if_pos fails] at listed
  simp only [ProfileStore.list, EStateM.run_bind, ProfileStore.withContext_eq_error listed]

theorem list_run_of_lists {b : MemoryBackend} (lists : b.listFails = false) :
    ProfileStore.list.run b = ((b.paths.mapM fun path =>
        ProfileStore.withContext ("couldn't dump connection profile " ++ path) (dump path)) >>=
      fun profiles => pure (profiles.mergeSort fun c c' =>
        decide (c.settings.conn.id ≤ c'.settings.conn.id))).run b := by
  have listed := listConnections_run b
  rw [if_neg (by rw [lists]; decide)] at listed
  unfold ProfileStore.list
  rw [EStateM.run_bind, ProfileStore.withContext_eq_ok.mpr listed]

theorem list_run_ok {b : MemoryBackend} (lists : b.listFails = false) {cs : List ConnProfile}
    (read : b.profiles.mapM dumpOutcome = .ok cs) :
    ∃ notes, ProfileStore.list.run b =
      .ok (cs.mergeSort fun c c' => decide (c.settings.conn.id ≤ c'.settings.conn.id))
        (b.advance (b.profiles.countP asksSecrets) notes) := by
  rw [← List.zipIdx_map_fst 0 b.profiles] at read
  obtain ⟨notes, ran⟩ := dumps_run_ok (fun q => stored_of_mem_zipIdx) read
  rw [List.zipIdx_map_fst] at ran
  refine ⟨notes, ?_⟩
  rw [list_run_of_lists lists, paths_eq_map_zipIdx, EStateM.run_bind, ran]
  rfl

/-- A listing stops at the first profile that cannot be read, naming its path: the profiles after
it are not read. -/
theorem list_run_error {b : MemoryBackend} (lists : b.listFails = false) {i : Nat}
    {p : StoredProfile} {e : Error} (stored : b.profiles[i]? = some p)
    (before : ∀ j < i, ∀ q, b.profiles[j]? = some q → ∃ c, dumpOutcome q = .ok c)
    (fails : dumpOutcome p = .error e) :
    ∃ notes, ProfileStore.list.run b =
      .error (.context ("couldn't dump connection profile " ++ settingsPath (i + 1)) e)
        (b.advance ((b.profiles.take (i + 1)).countP asksSecrets) notes) := by
  have all : ∀ q ∈ b.profiles.zipIdx.take i ++ (p, i) :: b.profiles.zipIdx.drop (i + 1),
      b.profiles[q.2]? = some q.1 := by
    rw [← zipIdx_eq_split stored]
    exact fun q => stored_of_mem_zipIdx
  have earlier : ∀ q ∈ b.profiles.zipIdx.take i, ∃ c, dumpOutcome q.1 = .ok c := fun q mem =>
    before q.2 (mem_zipIdx_take mem).1 q.1 (mem_zipIdx_take mem).2
  obtain ⟨notes, ran⟩ := dumps_run_error fails all earlier
  have firstReads :
      (b.profiles.zipIdx.take i ++ [(p, i)]).map Prod.fst = b.profiles.take (i + 1) := by
    rw [List.map_append, List.map_take, List.zipIdx_map_fst, List.take_add_one, stored]
    rfl
  rw [firstReads] at ran
  refine ⟨notes, ?_⟩
  rw [list_run_of_lists lists, paths_eq_map_zipIdx, zipIdx_eq_split stored, EStateM.run_bind, ran]

theorem mapM_dump_outcomes {b : MemoryBackend} :
    ∀ {qs : List (StoredProfile × Nat)}, (∀ q ∈ qs, b.profiles[q.2]? = some q.1) →
      (qs.map fun q => settingsPath (q.2 + 1)).mapM
          (fun path => resultOutcome ((dump path).run b)) = (qs.map Prod.fst).mapM dumpOutcome
  | [], _ => rfl
  | (p, i) :: qs, stored => by
      rw [List.map_cons, List.map_cons, List.mapM_cons, List.mapM_cons,
        dump_outcome (i := i) (p := p) (stored _ List.mem_cons_self),
        mapM_dump_outcomes fun q mem => stored q (List.mem_cons_of_mem _ mem)]

theorem paths_mapM_dump (b : MemoryBackend) :
    b.paths.mapM (fun path => resultOutcome ((dump path).run b)) =
      b.profiles.mapM dumpOutcome := by
  rw [paths_eq_map_zipIdx, mapM_dump_outcomes fun q => stored_of_mem_zipIdx,
    List.zipIdx_map_fst]

theorem reads_of_list_ok {b : MemoryBackend} {L : List ConnProfile}
    (ok : resultOutcome (ProfileStore.list.run b) = .ok L) :
    b.listFails = false ∧ ∃ cs, b.profiles.mapM dumpOutcome = .ok cs := by
  cases lists : b.listFails
  · refine ⟨rfl, ?_⟩
    cases read : b.profiles.mapM dumpOutcome with
    | ok cs => exact ⟨cs, rfl⟩
    | error e =>
        obtain ⟨i, p, stored, before, fails⟩ := exists_first_error read
        obtain ⟨notes, ran⟩ := list_run_error lists stored before fails
        rw [ran] at ok
        cases ok
  · rw [list_run_of_listFails lists] at ok
    cases ok

theorem connectionByUuid_run_eq {b : MemoryBackend} {u : Uuid} {i : Nat} {p : StoredProfile}
    (resolved : b.lookupIndex? u = some i) (stored : b.profiles[i]? = some p) :
    (SettingsBackend.connectionByUuid u : EStateM Error MemoryBackend String).run b =
      if "lookup" ∈ p.failing then .error (callFailure "lookup") b
      else .ok (settingsPath (i + 1)) b := by
  by_cases failing : "lookup" ∈ p.failing
  · have looked := profileFor_run_eq "lookup" stored
    rw [if_pos failing] at looked ⊢
    simp only [SettingsBackend.connectionByUuid, EStateM.run_bind, EStateM.run_get, resolved,
      looked]
  · rw [if_neg failing, connectionByUuid_run resolved stored failing]

theorem get_run_of_lookup_fails {b : MemoryBackend} {u : Uuid} {i : Nat} {p : StoredProfile}
    (resolved : b.lookupIndex? u = some i) (stored : b.profiles[i]? = some p)
    (failing : "lookup" ∈ p.failing) :
    (ProfileStore.get u).run b = .error (callFailure "lookup") b := by
  have looked := connectionByUuid_run_eq resolved stored
  rw [if_pos failing] at looked
  simp only [ProfileStore.get, EStateM.run_bind, looked]

theorem get_run {b : MemoryBackend} {u : Uuid} {i : Nat} {p : StoredProfile}
    (resolved : b.lookupIndex? u = some i) (stored : b.profiles[i]? = some p)
    (serves : "lookup" ∉ p.failing) :
    (ProfileStore.get u).run b = (ProfileStore.withContext
      ("couldn't dump connection profile " ++ u.text) (dump (settingsPath (i + 1)))).run b := by
  simp only [ProfileStore.get, EStateM.run_bind, connectionByUuid_run resolved stored serves]

theorem asksSecrets_iff (p : StoredProfile) :
    asksSecrets p = true ↔
      "meta" ∉ p.failing ∧ "get_settings" ∉ p.failing ∧
        ProfileSettings.WifiTyped p.settings := by
  rw [asksSecrets, Bool.and_eq_true, decide_eq_true_iff, ProfileSettings.isWifiProfile_iff,
    and_assoc]

theorem dumpOutcome_of_unread {p : StoredProfile} (metaServed : "meta" ∉ p.failing)
    (settingsServed : "get_settings" ∉ p.failing)
    (unread : "get_secrets" ∈ p.failing ∨ p.secrets = none) :
    dumpOutcome p = (ProfileSettings.decode p.settings none).map (connProfile p.profileMeta) := by
  have none : secretsRead p = none := by
    unfold secretsRead
    split
    next served =>
      rcases unread with failing | absent
      · exact absurd failing served.2
      · exact absent
    next => rfl
  rw [dumpOutcome, if_neg metaServed, if_neg settingsServed, none]

open ProfileSettings (WifiTyped) in
/-- Reading profiles through the store. A listing fails as a whole when the listing call does, or
at the first profile in path order that cannot be read, naming its path and reading no profile
after it; otherwise it gives what reading each path on its own gives, sorted by ID with the
profiles of one ID in path order. Getting a profile passes the lookup's error through and wraps a
failed read with the UUID. A read asks for the secrets once exactly when the metadata and settings
were read and the type is the Wi-Fi text, and a failed secret read leaves the profile as decoded
without secrets. Nothing else of the backend changes but its journal. -/
theorem profile_reads_through_store (b : MemoryBackend) :
    (b.listFails = true → ProfileStore.list.run b =
      .error (.context "couldn't list connection profiles" (callFailure "list")) b) ∧
    ((∃ L, resultOutcome (ProfileStore.list.run b) = .ok L) ↔ b.listFails = false ∧
      ∃ cs, b.paths.mapM (fun path => resultOutcome ((dump path).run b)) = .ok cs) ∧
    (∀ L cs, resultOutcome (ProfileStore.list.run b) = .ok L →
      b.paths.mapM (fun path => resultOutcome ((dump path).run b)) = .ok cs → SortedById cs L) ∧
    (∀ L b', ProfileStore.list.run b = .ok L b' →
      ∃ notes, b' = b.advance (b.profiles.countP asksSecrets) notes) ∧
    (∀ i e, b.listFails = false → i < b.profiles.length →
      (∀ j < i, ∃ c, resultOutcome ((dump (settingsPath (j + 1))).run b) = .ok c) →
      resultOutcome ((dump (settingsPath (i + 1))).run b) = .error e →
      ∃ notes, ProfileStore.list.run b =
        .error (.context ("couldn't dump connection profile " ++ settingsPath (i + 1)) e)
          (b.advance ((b.profiles.take (i + 1)).countP asksSecrets) notes)) ∧
    (∀ u, b.lookupIndex? u = none →
      (ProfileStore.get u).run b = .error (.profileNotFound u) b) ∧
    (∀ u i p, b.lookupIndex? u = some i → b.profiles[i]? = some p → "lookup" ∈ p.failing →
      (ProfileStore.get u).run b = .error (callFailure "lookup") b) ∧
    (∀ u i p, b.lookupIndex? u = some i → b.profiles[i]? = some p → "lookup" ∉ p.failing →
      resultOutcome ((ProfileStore.get u).run b) =
          (resultOutcome ((dump (settingsPath (i + 1))).run b)).mapError
            (.context ("couldn't dump connection profile " ++ u.text)) ∧
        resultState ((ProfileStore.get u).run b) =
          resultState ((dump (settingsPath (i + 1))).run b)) ∧
    (∀ i p, b.profiles[i]? = some p → ∃ notes,
      resultState ((dump (settingsPath (i + 1))).run b) =
        b.advance (if asksSecrets p then 1 else 0) notes) ∧
    (∀ p, asksSecrets p = true ↔
      "meta" ∉ p.failing ∧ "get_settings" ∉ p.failing ∧ WifiTyped p.settings) ∧
    (∀ i p, b.profiles[i]? = some p → "meta" ∉ p.failing → "get_settings" ∉ p.failing →
      ("get_secrets" ∈ p.failing ∨ p.secrets = none) →
      resultOutcome ((dump (settingsPath (i + 1))).run b) =
        (ProfileSettings.decode p.settings none).map (connProfile p.profileMeta)) := by
  refine ⟨list_run_of_listFails, ⟨?_, ?_⟩, ?_, ?_, ?_, fun u => get_unknown,
    fun u i p => get_run_of_lookup_fails, fun u i p resolved stored serves => ?_,
    fun i p stored => ?_, asksSecrets_iff, fun i p stored metaServed settingsServed unread => ?_⟩
  · rintro ⟨L, ok⟩
    rw [paths_mapM_dump]
    exact reads_of_list_ok ok
  · rintro ⟨lists, cs, read⟩
    rw [paths_mapM_dump] at read
    obtain ⟨notes, ran⟩ := list_run_ok lists read
    exact ⟨_, by rw [ran]; rfl⟩
  · intro L cs ok read
    rw [paths_mapM_dump] at read
    obtain ⟨notes, ran⟩ := list_run_ok (reads_of_list_ok ok).1 read
    rw [ran] at ok
    cases ok
    exact sortedById_mergeSort cs
  · intro L b' ran
    obtain ⟨lists, cs, read⟩ := reads_of_list_ok (L := L) (by rw [ran]; rfl)
    obtain ⟨notes, ran'⟩ := list_run_ok lists read
    rw [ran] at ran'
    cases ran'
    exact ⟨notes, rfl⟩
  · intro i e lists inside before fails
    have stored := List.getElem?_eq_getElem inside
    rw [dump_outcome stored] at fails
    refine list_run_error lists stored (fun j earlier q at_j => ?_) fails
    rw [← dump_outcome at_j]
    exact before j earlier
  · rw [get_run resolved stored serves]
    exact ProfileStore.withContext_outcome _ _ b
  · obtain ⟨notes, ran⟩ := dump_run stored
    exact ⟨notes, by rw [ran, resultState_settle]⟩
  · rw [dump_outcome stored, dumpOutcome_of_unread metaServed settingsServed unread]

end MemoryBackend

end NetConsole
