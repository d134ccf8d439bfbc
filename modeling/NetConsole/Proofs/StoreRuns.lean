import NetConsole.Store.Steps
import NetConsole.Proofs.ErrorKinds

/-! Runs of requests over the in-memory profile store. Only a successful update changes the stored
profiles; the frame facts are stated once, as `RunKeeps` and `FailKeeps` of a view of the state,
with one lemma per monad operation. -/

namespace NetConsole

theorem EStateM.run_bind_eq_ok {ε σ α β : Type} {x : EStateM ε σ α} {f : α → EStateM ε σ β}
    {s s'' : σ} {b : β} :
    (x >>= f).run s = .ok b s'' ↔ ∃ a s', x.run s = .ok a s' ∧ (f a).run s' = .ok b s'' := by
  rw [EStateM.run_bind]
  cases x.run s with
  | ok a s' =>
      constructor
      · intro ran
        exact ⟨a, s', rfl, ran⟩
      · rintro ⟨_, _, ⟨⟩, ran⟩
        exact ran
  | error e s' =>
      constructor
      · intro ran
        cases ran
      · rintro ⟨_, _, ⟨⟩, _⟩

section Keeps

variable {ε σ α β γ : Type} {view : σ → γ}

def RunKeeps (view : σ → γ) (m : EStateM ε σ α) : Prop :=
  ∀ s, view (resultState (m.run s)) = view s

def FailKeeps (view : σ → γ) (m : EStateM ε σ α) : Prop :=
  ∀ s e s', m.run s = .error e s' → view s' = view s

def NeverFails (m : EStateM ε σ α) : Prop :=
  ∀ s e s', m.run s ≠ .error e s'

namespace RunKeeps

theorem pure (a : α) : RunKeeps view (pure a : EStateM ε σ α) := fun _ => rfl

theorem throw (e : ε) : RunKeeps view (throw e : EStateM ε σ α) := fun _ => rfl

theorem get : RunKeeps view (get : EStateM ε σ σ) := fun _ => rfl

theorem modify {f : σ → σ} (keeps : ∀ s, view (f s) = view s) :
    RunKeeps view (modify f : EStateM ε σ PUnit) := keeps

theorem bind {x : EStateM ε σ α} {f : α → EStateM ε σ β} (first : RunKeeps view x)
    (next : ∀ a, RunKeeps view (f a)) : RunKeeps view (x >>= f) := by
  intro s
  have kept := first s
  rw [EStateM.run_bind]
  cases ran : x.run s with
  | ok a t =>
      rw [ran] at kept
      exact (next a t).trans kept
  | error e t =>
      rw [ran] at kept
      exact kept

theorem ite {c : Prop} [Decidable c] {x y : EStateM ε σ α} (yes : RunKeeps view x)
    (no : RunKeeps view y) : RunKeeps view (if c then x else y) := by
  split
  · exact yes
  · exact no

theorem tryCatch {x : EStateM ε σ α} {h : ε → EStateM ε σ α} (first : RunKeeps view x)
    (handler : ∀ e, RunKeeps view (h e)) : RunKeeps view (tryCatch x h) := by
  intro s
  have kept := first s
  rw [EStateM.run_tryCatch]
  cases ran : x.run s with
  | ok a t =>
      rw [ran] at kept
      exact kept
  | error e t =>
      rw [ran] at kept
      exact (handler e t).trans kept

theorem mapM {xs : List α} {f : α → EStateM ε σ β} (each : ∀ a ∈ xs, RunKeeps view (f a)) :
    RunKeeps view (xs.mapM f) := by
  induction xs with
  | nil => exact pure []
  | cons a rest ih =>
      rw [List.mapM_cons]
      exact .bind (each a (List.mem_cons_self ..)) fun _ =>
        .bind (ih fun a mem => each a (List.mem_cons_of_mem _ mem)) fun _ => pure _

theorem forM {xs : List α} {f : α → EStateM ε σ PUnit} (each : ∀ a, RunKeeps view (f a)) :
    RunKeeps view (xs.forM f) := by
  induction xs with
  | nil => exact pure _
  -- `List.forM` on a cons is the head's run followed by the rest's, by definition
  | cons a rest ih => exact .bind (each a) fun _ => ih

theorem map {δ : Type} {m : EStateM ε σ α} (g : γ → δ) (keeps : RunKeeps view m) :
    RunKeeps (fun s => g (view s)) m := fun s => congrArg g (keeps s)

theorem eq_of_ok {m : EStateM ε σ α} (keeps : RunKeeps view m) {s s' : σ} {a : α}
    (ran : m.run s = .ok a s') : view s' = view s := by
  have kept := keeps s
  rwa [ran] at kept

theorem failKeeps {m : EStateM ε σ α} (keeps : RunKeeps view m) : FailKeeps view m := by
  intro s e s' ran
  have kept := keeps s
  rwa [ran] at kept

end RunKeeps

namespace NeverFails

theorem pure (a : α) : NeverFails (pure a : EStateM ε σ α) := fun _ _ _ ran => by cases ran

theorem get : NeverFails (get : EStateM ε σ σ) := fun _ _ _ ran => by cases ran

theorem modify (f : σ → σ) : NeverFails (modify f : EStateM ε σ PUnit) :=
  fun _ _ _ ran => by cases ran

theorem bind {x : EStateM ε σ α} {f : α → EStateM ε σ β} (first : NeverFails x)
    (next : ∀ a, NeverFails (f a)) : NeverFails (x >>= f) := by
  intro s e s'
  rw [EStateM.run_bind]
  cases ran : x.run s with
  | ok a t => exact next a t e s'
  | error e' t => exact absurd ran (first s e' t)

theorem forM {xs : List α} {f : α → EStateM ε σ PUnit} (each : ∀ a, NeverFails (f a)) :
    NeverFails (xs.forM f) := by
  induction xs with
  | nil => exact pure _
  | cons a rest ih => exact .bind (each a) fun _ => ih

theorem exists_ok {m : EStateM ε σ α} (total : NeverFails m) (s : σ) :
    ∃ a s', m.run s = .ok a s' := by
  cases ran : m.run s with
  | ok a s' => exact ⟨a, s', rfl⟩
  | error e s' => exact absurd ran (total s e s')

end NeverFails

namespace FailKeeps

theorem of_neverFails {m : EStateM ε σ α} (total : NeverFails m) : FailKeeps view m :=
  fun s e s' ran => absurd ran (total s e s')

/-- A first part that keeps the view, whatever its outcome, followed by one whose failures keep
it. -/
theorem bind {x : EStateM ε σ α} {f : α → EStateM ε σ β} (first : RunKeeps view x)
    (next : ∀ a, FailKeeps view (f a)) : FailKeeps view (x >>= f) := by
  intro s e s' failed
  have kept := first s
  rw [EStateM.run_bind] at failed
  cases ran : x.run s with
  | ok a t =>
      rw [ran] at failed kept
      exact (next a t e s' failed).trans kept
  | error e' t =>
      rw [ran] at failed kept
      cases failed
      exact kept

theorem bind_neverFails {x : EStateM ε σ α} {f : α → EStateM ε σ β} (first : FailKeeps view x)
    (next : ∀ a, NeverFails (f a)) : FailKeeps view (x >>= f) := by
  intro s e s' failed
  rw [EStateM.run_bind] at failed
  cases ran : x.run s with
  | ok a t =>
      rw [ran] at failed
      exact absurd failed (next a t e s')
  | error e' t =>
      rw [ran] at failed
      cases failed
      exact first s _ _ ran

theorem tryCatch {x : EStateM ε σ α} {h : ε → EStateM ε σ α} (first : FailKeeps view x)
    (handler : ∀ e, RunKeeps view (h e)) : FailKeeps view (tryCatch x h) := by
  intro s e s' failed
  rw [EStateM.run_tryCatch] at failed
  cases ran : x.run s with
  | ok a t =>
      rw [ran] at failed
      cases failed
  | error e' t =>
      rw [ran] at failed
      dsimp only at failed
      have kept := handler e' t
      rw [failed] at kept
      exact kept.trans (first s e' t ran)

end FailKeeps

end Keeps

namespace ProfileStore

theorem withContext_eq_ok {σ α : Type} {context : String} {m : EStateM Error σ α}
    {s s' : σ} {a : α} :
    (ProfileStore.withContext context m).run s = .ok a s' ↔ m.run s = .ok a s' := by
  rw [ProfileStore.withContext, EStateM.run_tryCatch]
  cases m.run s with
  | ok b t => exact Iff.rfl
  | error e t =>
      constructor
      · intro ran
        cases ran
      · intro ran
        cases ran

theorem withContext_keeps {σ α γ : Type} {view : σ → γ} {c : String} {m : EStateM Error σ α}
    (keeps : RunKeeps view m) : RunKeeps view (withContext c m) :=
  .tryCatch keeps fun _ => .throw _

theorem withContext_failKeeps {σ α γ : Type} {view : σ → γ} {c : String} {m : EStateM Error σ α}
    (keeps : FailKeeps view m) : FailKeeps view (withContext c m) :=
  .tryCatch keeps fun _ => .throw _

end ProfileStore

namespace StoreStep

variable {σ : Type} [SettingsBackend σ] {u : Uuid} {selector : String} {form : Form}

theorem run_update_ok {kind : UpdateKind} {us : Updates}
    (translated : Form.translateAs selector form = .ok (kind, us)) :
    (update u selector form).run = (ProfileStore.update u kind us : EStateM Error σ Unit) := by
  -- unfolding by hand: the equation lemmas of `run` would evaluate the translation
  unfold run
  dsimp only
  rw [translated]

theorem run_update_error {e : Error} (translated : Form.translateAs selector form = .error e) :
    (update u selector form).run = (throw e : EStateM Error σ Unit) := by
  unfold run
  dsimp only
  rw [translated]

end StoreStep

/-- A view of the backend's state that its calls leave as they found it: every call but `update2`
and `activateConnection`, and those two when they fail. -/
structure CallsKeep (σ : Type) [SettingsBackend σ] {γ : Type} (view : σ → γ) : Prop where
  listConnections : RunKeeps view (SettingsBackend.listConnections : EStateM Error σ (List String))
  connectionByUuid : ∀ u, RunKeeps view (SettingsBackend.connectionByUuid u : EStateM Error σ String)
  connectionMeta : ∀ path,
    RunKeeps view (SettingsBackend.connectionMeta path : EStateM Error σ ProfileMeta)
  getSettings : ∀ path, RunKeeps view (SettingsBackend.getSettings path : EStateM Error σ RawSettings)
  getSecrets : ∀ path setting,
    RunKeeps view (SettingsBackend.getSecrets path setting : EStateM Error σ RawSettings)
  reloadConnections : RunKeeps view (SettingsBackend.reloadConnections : EStateM Error σ Bool)
  note : ∀ r s, view (SettingsBackend.note r s) = view s
  update2 : ∀ path raw flags,
    FailKeeps view (SettingsBackend.update2 path raw flags : EStateM Error σ Unit)
  activateConnection : ∀ path,
    FailKeeps view (SettingsBackend.activateConnection path : EStateM Error σ String)

namespace ProfileStore

variable {σ : Type} [SettingsBackend σ] {γ : Type} {view : σ → γ}

theorem record_neverFails (r : LogRecord) : NeverFails (record r : EStateM Error σ Unit) :=
  .modify _

theorem records_neverFails (rs : List LogRecord) : NeverFails (records rs : EStateM Error σ Unit) :=
  .forM fun _ => .modify _

theorem records_keeps (calls : CallsKeep σ view) (rs : List LogRecord) :
    RunKeeps view (records rs : EStateM Error σ Unit) :=
  .forM fun r => .modify (calls.note r)

theorem dump_keeps (calls : CallsKeep σ view) (path : String) :
    RunKeeps view (dump path : EStateM Error σ ConnProfile) := by
  unfold dump
  refine .bind (.modify (calls.note _)) fun _ => .bind (calls.connectionMeta path) fun _ =>
    .bind (withContext_keeps (calls.getSettings path)) fun raw => ?_
  dsimp only
  -- secrets that cannot be read are noted and read as none
  have secrets : RunKeeps view
      (some <$> SettingsBackend.getSecrets path Setting.wifiSecurity : EStateM Error σ _) := by
    rw [map_eq_pure_bind]
    exact .bind (calls.getSecrets _ _) fun _ => .pure _
  refine .ite (.bind (.tryCatch secrets fun _ => .bind (.modify (calls.note _)) fun _ => .pure _)
    fun _ => ?_) (.bind (.pure _) fun _ => ?_)
  all_goals
    refine .bind (records_keeps calls _) fun _ => ?_
    split
    · exact .pure _
    · exact .throw _

theorem get_keeps (calls : CallsKeep σ view) (uuid : Uuid) :
    RunKeeps view (get uuid : EStateM Error σ ConnProfile) :=
  .bind (calls.connectionByUuid uuid) fun path => withContext_keeps (dump_keeps calls path)

theorem list_keeps (calls : CallsKeep σ view) :
    RunKeeps view (list : EStateM Error σ (List ConnProfile)) :=
  .bind (withContext_keeps calls.listConnections) fun _ =>
    .bind (.mapM fun path _ => withContext_keeps (dump_keeps calls path)) fun _ => .pure _

theorem reload_keeps (calls : CallsKeep σ view) : RunKeeps view (reload : EStateM Error σ Unit) :=
  .bind (withContext_keeps calls.reloadConnections) fun _ => .ite (.throw _) (.pure _)

theorem update_failKeeps (calls : CallsKeep σ view) (uuid : Uuid) (kind : UpdateKind)
    (us : Updates) : FailKeeps view (update uuid kind us : EStateM Error σ Unit) :=
  .bind_neverFails (withContext_failKeeps (.bind (calls.connectionByUuid uuid) fun path =>
      .bind (withContext_keeps (calls.getSettings path)) fun _ =>
      .bind (records_keeps calls _) fun _ => calls.update2 _ _ _))
    fun _ => record_neverFails _

theorem activate_failKeeps (calls : CallsKeep σ view) (uuid : Uuid) :
    FailKeeps view (activate uuid : EStateM Error σ Unit) :=
  .bind (calls.connectionByUuid uuid) fun path =>
    .bind_neverFails (withContext_failKeeps (calls.activateConnection path))
      fun _ => record_neverFails _

end ProfileStore

namespace MemoryBackend

def store (b : MemoryBackend) : List StoredProfile × List (UpdateFlags × RawSettings) × List String :=
  (b.profiles, b.submitted, b.activated)

theorem store_eq_iff {b b' : MemoryBackend} :
    store b' = store b ↔
      b'.profiles = b.profiles ∧ b'.submitted = b.submitted ∧ b'.activated = b.activated := by
  simp [store]

theorem profileFor_keeps (path call : String) : RunKeeps store (profileFor path call) := by
  unfold profileFor
  refine .bind .get fun b => ?_
  split
  · exact .throw _
  · split
    · exact .throw _
    · exact .ite (.throw _) (.pure _)

theorem callsKeep : CallsKeep MemoryBackend store where
  listConnections := .bind .get fun _ => .ite (.throw _) (.pure _)
  connectionByUuid u := by
    refine .bind .get fun b => ?_
    split
    · exact .throw _
    · exact .bind (profileFor_keeps _ _) fun _ => .pure _
  connectionMeta _ := .bind (profileFor_keeps _ _) fun _ => .pure _
  getSettings _ := .bind (profileFor_keeps _ _) fun _ => .pure _
  getSecrets _ _ := by
    refine .bind (.modify fun _ => rfl) fun _ => .bind (profileFor_keeps _ _) fun (_, p) => ?_
    dsimp only
    cases p.secrets
    · exact .throw _
    · exact .pure _
  reloadConnections := by
    refine .bind .get fun b => ?_
    split
    · exact .pure _
    · exact .throw _
  note _ _ := rfl
  update2 _ _ _ := .bind (profileFor_keeps _ _) fun _ => .of_neverFails (.modify _)
  activateConnection _ := .bind (profileFor_keeps _ _) fun _ =>
    .of_neverFails (.bind (.modify _) fun _ => .bind .get fun _ => .pure _)

theorem settingsPath_inj {m n : Nat} (same : settingsPath m = settingsPath n) : m = n := by
  unfold settingsPath at same
  rw [String.append_right_inj] at same
  -- the decimal digits of a number read back as the number
  have digits := congrArg String.toList same
  simp only [Nat.toString_eq_repr, Nat.toList_repr] at digits
  have back := congrArg (fun ds => Nat.ofDigitChars 10 ds 0) digits
  simp only [Nat.ofDigitChars_ten_toDigits] at back
  exact back

theorem indexOf?_settingsPath {b : MemoryBackend} {i j : Nat}
    (found : b.indexOf? (settingsPath (i + 1)) = some j) : j = i := by
  rw [indexOf?, List.find?_range_eq_some] at found
  have same := settingsPath_inj (beq_iff_eq.mp found.1)
  omega

theorem indexOf?_settingsPath_of_lt {b : MemoryBackend} {i : Nat} (inside : i < b.profiles.length) :
    b.indexOf? (settingsPath (i + 1)) = some i := by
  rw [indexOf?, List.find?_range_eq_some]
  refine ⟨by simp, List.mem_range.mpr inside, fun j earlier => ?_⟩
  have other : settingsPath (j + 1) ≠ settingsPath (i + 1) := fun same => by
    have := settingsPath_inj same
    omega
  simp [other]

theorem indexOf?_congr {b b' : MemoryBackend} (same : b'.profiles = b.profiles) (path : String) :
    b'.indexOf? path = b.indexOf? path := by
  simp only [indexOf?, same]

theorem profileFor_eq_ok {b b' : MemoryBackend} {path call : String} {i : Nat}
    {p : StoredProfile} (ran : (profileFor path call).run b = .ok (i, p) b') :
    b' = b ∧ b.indexOf? path = some i ∧ b.profiles[i]? = some p ∧ call ∉ p.failing := by
  obtain ⟨_, _, ⟨⟩, ran⟩ := EStateM.run_bind_eq_ok.mp ran
  split at ran
  · cases ran
  · rename_i j found
    split at ran
    · cases ran
    · rename_i q stored
      split at ran
      · cases ran
      · rename_i serves
        cases ran
        exact ⟨rfl, found, stored, fun listed => serves (List.contains_iff_mem.mpr listed)⟩

theorem profileFor_run {b : MemoryBackend} {i : Nat} {p : StoredProfile} {call : String}
    (stored : b.profiles[i]? = some p) (serves : call ∉ p.failing) :
    (profileFor (settingsPath (i + 1)) call).run b = .ok (i, p) b := by
  have inside : i < b.profiles.length := (List.getElem?_eq_some_iff.mp stored).1
  simp only [profileFor, EStateM.run_bind, EStateM.run_get, indexOf?_settingsPath_of_lt inside,
    stored]
  rw [if_neg fun listed => serves (List.contains_iff_mem.mp listed)]
  rfl

theorem connectionByUuid_eq_ok {b b' : MemoryBackend} {u : Uuid} {path : String}
    (ran : (SettingsBackend.connectionByUuid u : EStateM Error MemoryBackend String).run b =
      .ok path b') :
    b' = b ∧ ∃ i p, b.lookupIndex? u = some i ∧ b.profiles[i]? = some p ∧
      "lookup" ∉ p.failing ∧ path = settingsPath (i + 1) := by
  obtain ⟨_, _, ⟨⟩, ran⟩ := EStateM.run_bind_eq_ok.mp ran
  split at ran
  · cases ran
  · rename_i i resolved
    obtain ⟨⟨j, p⟩, _, looked, ⟨⟩⟩ := EStateM.run_bind_eq_ok.mp ran
    obtain ⟨rfl, at_j, stored, serves⟩ := profileFor_eq_ok looked
    rw [indexOf?_settingsPath at_j] at stored
    exact ⟨rfl, i, p, resolved, stored, serves, rfl⟩

theorem connectionByUuid_run {b : MemoryBackend} {u : Uuid} {i : Nat} {p : StoredProfile}
    (resolved : b.lookupIndex? u = some i) (stored : b.profiles[i]? = some p)
    (serves : "lookup" ∉ p.failing) :
    (SettingsBackend.connectionByUuid u : EStateM Error MemoryBackend String).run b =
      .ok (settingsPath (i + 1)) b := by
  simp only [SettingsBackend.connectionByUuid, EStateM.run_bind, EStateM.run_get, resolved,
    profileFor_run stored serves]
  rfl

theorem getSettings_eq_ok {b b' : MemoryBackend} {path : String} {raw : RawSettings}
    (ran : (SettingsBackend.getSettings path : EStateM Error MemoryBackend RawSettings).run b =
      .ok raw b') :
    b' = b ∧ ∃ i p, b.indexOf? path = some i ∧ b.profiles[i]? = some p ∧
      "get_settings" ∉ p.failing ∧ raw = p.settings := by
  obtain ⟨⟨i, p⟩, _, looked, ⟨⟩⟩ := EStateM.run_bind_eq_ok.mp ran
  obtain ⟨rfl, found, stored, serves⟩ := profileFor_eq_ok looked
  exact ⟨rfl, i, p, found, stored, serves, rfl⟩

theorem getSettings_run {b : MemoryBackend} {i : Nat} {p : StoredProfile}
    (stored : b.profiles[i]? = some p) (serves : "get_settings" ∉ p.failing) :
    (SettingsBackend.getSettings (settingsPath (i + 1)) :
      EStateM Error MemoryBackend RawSettings).run b = .ok p.settings b := by
  simp only [SettingsBackend.getSettings, EStateM.run_bind, profileFor_run stored serves]
  rfl

theorem update2_eq_ok {b b' : MemoryBackend} {path : String} {raw : RawSettings}
    {flags : UpdateFlags}
    (ran : (SettingsBackend.update2 path raw flags : EStateM Error MemoryBackend Unit).run b =
      .ok () b') :
    ∃ i p, b.indexOf? path = some i ∧ b.profiles[i]? = some p ∧ "update2" ∉ p.failing ∧
      b'.profiles = b.profiles.set i { p with settings := raw } ∧
      b'.submitted = b.submitted ++ [(flags, raw)] ∧ b'.activated = b.activated := by
  obtain ⟨⟨i, p⟩, _, looked, ⟨⟩⟩ := EStateM.run_bind_eq_ok.mp ran
  obtain ⟨rfl, found, stored, serves⟩ := profileFor_eq_ok looked
  exact ⟨i, p, found, stored, serves, rfl, rfl, rfl⟩

theorem update2_run {b : MemoryBackend} {i : Nat} {p : StoredProfile} {raw : RawSettings}
    {flags : UpdateFlags} (stored : b.profiles[i]? = some p) (serves : "update2" ∉ p.failing) :
    ∃ b', (SettingsBackend.update2 (settingsPath (i + 1)) raw flags :
      EStateM Error MemoryBackend Unit).run b = .ok () b' := by
  simp only [SettingsBackend.update2, EStateM.run_bind, profileFor_run stored serves]
  exact ⟨_, rfl⟩

/-- The calls an update makes of its profile: finding it, reading its settings and submitting the
merged ones. -/
def updateCalls : List String := ["lookup", "get_settings", "update2"]

/-- A successful update merged its updates into the settings of the profile its UUID resolves to,
which served each of its calls, and logged the merged settings with the flags of its kind. -/
theorem update_eq_ok {b b' : MemoryBackend} {u : Uuid} {kind : UpdateKind} {us : Updates}
    (ran : (ProfileStore.update u kind us).run b = .ok () b') :
    ∃ i p, b.lookupIndex? u = some i ∧ b.profiles[i]? = some p ∧
      (∀ call ∈ updateCalls, call ∉ p.failing) ∧
      b'.profiles = b.profiles.set i { p with settings := RawSettings.merge p.settings us } ∧
      b'.submitted = b.submitted ++ [(kind.flags, RawSettings.merge p.settings us)] ∧
      b'.activated = b.activated := by
  -- the update's calls in turn: the lookup, the read, the notes and `update2`, then a note
  obtain ⟨_, b1, updated, recorded⟩ := EStateM.run_bind_eq_ok.mp ran
  obtain ⟨profiles', submitted', activated'⟩ :=
    store_eq_iff.mp ((RunKeeps.modify (callsKeep.note _)).eq_of_ok recorded)
  obtain ⟨path, b2, found, rest⟩ :=
    EStateM.run_bind_eq_ok.mp (ProfileStore.withContext_eq_ok.mp updated)
  obtain ⟨looked, i, p, resolved, stored, lookup, rfl⟩ := connectionByUuid_eq_ok found
  rw [looked] at rest
  obtain ⟨raw, b3, read, rest⟩ := EStateM.run_bind_eq_ok.mp rest
  obtain ⟨unread, j, q, at_j, stored_q, getSettings, rfl⟩ :=
    getSettings_eq_ok (ProfileStore.withContext_eq_ok.mp read)
  rw [unread] at rest
  obtain ⟨_, b4, notes, submitted⟩ := EStateM.run_bind_eq_ok.mp rest
  obtain ⟨same, logs, activations⟩ :=
    store_eq_iff.mp ((ProfileStore.records_keeps callsKeep _).eq_of_ok notes)
  obtain ⟨k, r, at_k, stored_r, update2, profiles, logged, activated⟩ := update2_eq_ok submitted
  -- the lookup, the read and `update2` all find profile `i`, unchanged in between
  rw [indexOf?_settingsPath at_j, stored, Option.some.injEq] at stored_q
  rw [indexOf?_congr same, indexOf?_settingsPath_of_lt (List.getElem?_eq_some_iff.mp stored).1,
    Option.some.injEq] at at_k
  rw [← at_k, same, stored, Option.some.injEq] at stored_r
  rw [← stored_q] at getSettings
  rw [← stored_r] at update2
  refine ⟨i, p, resolved, stored, ?_, ?_, ?_, ?_⟩
  · simp [updateCalls, lookup, getSettings, update2]
  · rw [profiles', profiles, ← at_k, same, ← stored_r, ← stored_q]
  · rw [submitted', logged, logs, ← stored_q]
  · rw [activated', activated, activations]

theorem update_succeeds_iff {b : MemoryBackend} {u : Uuid} {kind : UpdateKind} {us : Updates} :
    (∃ b', (ProfileStore.update u kind us).run b = .ok () b') ↔
      ∃ i p, b.lookupIndex? u = some i ∧ b.profiles[i]? = some p ∧
        ∀ call ∈ updateCalls, call ∉ p.failing := by
  constructor
  · rintro ⟨b', ran⟩
    obtain ⟨i, p, resolved, stored, serves, -⟩ := update_eq_ok ran
    exact ⟨i, p, resolved, stored, serves⟩
  · rintro ⟨i, p, resolved, stored, serves⟩
    simp only [updateCalls, List.mem_cons, List.not_mem_nil, forall_eq_or_imp, forall_eq,
      or_false] at serves
    obtain ⟨lookup, getSettings, update2⟩ := serves
    -- the notes change only the journal, so `update2` finds the profile as the read did
    obtain ⟨_, b4, notes⟩ := (ProfileStore.records_neverFails
      (RawSettings.mergeNotes p.settings us)).exists_ok b
    have same := (store_eq_iff.mp ((ProfileStore.records_keeps callsKeep _).eq_of_ok notes)).1
    rw [← same] at stored
    obtain ⟨b5, submitted⟩ : ∃ b5, (SettingsBackend.update2 (settingsPath (i + 1))
        (RawSettings.merge p.settings us) kind.flags : EStateM Error MemoryBackend Unit).run b4 =
          .ok () b5 :=
      update2_run stored update2
    rw [same] at stored
    -- the closing note always succeeds
    refine ⟨_, EStateM.run_bind_eq_ok.mpr ⟨(), b5, ?_, rfl⟩⟩
    refine ProfileStore.withContext_eq_ok.mpr (EStateM.run_bind_eq_ok.mpr
      ⟨_, b, connectionByUuid_run resolved stored lookup, EStateM.run_bind_eq_ok.mpr
        ⟨_, b, ProfileStore.withContext_eq_ok.mpr (getSettings_run stored getSettings),
          EStateM.run_bind_eq_ok.mpr ⟨(), b4, notes, submitted⟩⟩⟩)

def stored (b : MemoryBackend) : List StoredProfile × List (UpdateFlags × RawSettings) :=
  (b.profiles, b.submitted)

theorem stored_of_store {α : Type} {m : EStateM Error MemoryBackend α}
    (keeps : RunKeeps store m) : RunKeeps stored m :=
  keeps.map fun t => (t.1, t.2.1)

theorem activate_keeps_stored (u : Uuid) :
    RunKeeps stored (ProfileStore.activate u : EStateM Error MemoryBackend Unit) :=
  .bind (stored_of_store (callsKeep.connectionByUuid u)) fun _ =>
    .bind (ProfileStore.withContext_keeps (.bind (stored_of_store (profileFor_keeps _ _)) fun _ =>
      .bind (.modify fun _ => rfl) fun _ => .bind .get fun _ => .pure _))
    fun _ => .modify fun _ => rfl

theorem step_failKeeps (step : StoreStep) :
    FailKeeps store (step.run : EStateM Error MemoryBackend Unit) := by
  cases step with
  | get u => exact (RunKeeps.bind (ProfileStore.get_keeps callsKeep u) fun _ => .pure _).failKeeps
  | list => exact (RunKeeps.bind (ProfileStore.list_keeps callsKeep) fun _ => .pure _).failKeeps
  | update u selector form =>
      cases translated : Form.translateAs selector form with
      | ok request =>
          rw [StoreStep.run_update_ok translated]
          exact ProfileStore.update_failKeeps callsKeep _ _ _
      | error e =>
          rw [StoreStep.run_update_error translated]
          exact (RunKeeps.throw _).failKeeps
  | activate u => exact ProfileStore.activate_failKeeps callsKeep u
  | reload => exact (ProfileStore.reload_keeps callsKeep).failKeeps
  | raw _ => exact (RunKeeps.pure _).failKeeps

/-- Every request but an update leaves the stored profiles and the log of submitted updates as
they were. -/
theorem step_keeps_stored (step : StoreStep)
    (notUpdate : ∀ u selector form, step ≠ .update u selector form) :
    RunKeeps stored (step.run : EStateM Error MemoryBackend Unit) := by
  cases step with
  | get u => exact .bind (stored_of_store (ProfileStore.get_keeps callsKeep u)) fun _ => .pure _
  | list => exact .bind (stored_of_store (ProfileStore.list_keeps callsKeep)) fun _ => .pure _
  | update u selector form => exact absurd rfl (notUpdate u selector form)
  | activate u => exact activate_keeps_stored u
  | reload => exact stored_of_store (ProfileStore.reload_keeps callsKeep)
  | raw _ => exact .pure _

/-- The UUID finds profile `i` first in path order: profile `i` is found by it, and no profile
before `i` is. -/
def ResolvesTo (b : MemoryBackend) (u : Uuid) (i : Nat) : Prop :=
  (∃ p, b.profiles[i]? = some p ∧ p.lookupUuid = some u) ∧
    ∀ j < i, ∀ q, b.profiles[j]? = some q → q.lookupUuid ≠ some u

theorem lookupIndex?_eq_some_iff {b : MemoryBackend} {u : Uuid} {i : Nat} :
    b.lookupIndex? u = some i ↔ ResolvesTo b u i := by
  have found : b.lookupIndex? u = (List.range b.profiles.length).find? fun j =>
      (b.profiles[j]?).any (·.lookupUuid == some u) := by
    unfold lookupIndex?
    congr 1
    funext j
    cases b.profiles[j]? <;> rfl
  rw [found, List.find?_range_eq_some, List.mem_range]
  constructor
  · rintro ⟨present, -, before⟩
    refine ⟨by simpa [Option.any_eq_true] using present, fun j earlier q at_j same => ?_⟩
    simpa [at_j, same] using before j earlier
  · rintro ⟨⟨p, at_i, same⟩, before⟩
    refine ⟨by simp [at_i, same], (List.getElem?_eq_some_iff.mp at_i).1, fun j earlier => ?_⟩
    cases at_j : b.profiles[j]? with
    | none => simp
    | some q => simpa using before j earlier q at_j

def withMerged (profiles : List StoredProfile) (updates : Nat → List Updates) :
    List StoredProfile :=
  profiles.mapIdx fun i p => { p with settings := (updates i).foldl RawSettings.merge p.settings }

theorem withMerged_nil (profiles : List StoredProfile) :
    withMerged profiles (fun _ => []) = profiles :=
  List.ext_getElem? fun i => by cases found : profiles[i]? <;> simp [withMerged, found]

theorem withMerged_withMerged (profiles : List StoredProfile) (first next : Nat → List Updates) :
    withMerged (withMerged profiles first) next = withMerged profiles fun i => first i ++ next i := by
  simp only [withMerged, List.mapIdx_mapIdx]
  congr 1
  funext i p
  simp [List.foldl_append]

theorem set_eq_withMerged {profiles : List StoredProfile} {i : Nat} {p : StoredProfile}
    (stored : profiles[i]? = some p) (us : Updates) :
    profiles.set i { p with settings := RawSettings.merge p.settings us } =
      withMerged profiles fun j => if i = j then [us] else [] := by
  apply List.ext_getElem?
  intro j
  by_cases here : j = i
  · subst here
    have inside : j < profiles.length := (List.getElem?_eq_some_iff.mp stored).1
    simp [withMerged, stored, List.getElem?_set_self inside]
  · rw [List.getElem?_set_ne (Ne.symm here)]
    cases found : profiles[j]? <;> simp [withMerged, Ne.symm here, found]

/-- Merging into the settings leaves the profiles' lookup UUIDs, so every UUID resolves as
before. -/
theorem lookupIndex?_withMerged {b b' : MemoryBackend} {updates : Nat → List Updates}
    (merged : b'.profiles = withMerged b.profiles updates) (u : Uuid) :
    b'.lookupIndex? u = b.lookupIndex? u := by
  simp only [lookupIndex?, merged, withMerged, List.length_mapIdx, List.getElem?_mapIdx]
  congr 1
  funext i
  cases b.profiles[i]? <;> rfl

/-- A second update after a successful one finds the same profile, now holding what the first
merged, and merges into that. -/
theorem update_update_eq_ok {b b1 b2 : MemoryBackend} {u : Uuid} {kind kind' : UpdateKind}
    {us vs : Updates}
    (first : (ProfileStore.update u kind us).run b = .ok () b1)
    (second : (ProfileStore.update u kind' vs).run b1 = .ok () b2) :
    ∃ i p, b.lookupIndex? u = some i ∧ b.profiles[i]? = some p ∧
      b1.submitted = b.submitted ++ [(kind.flags, RawSettings.merge p.settings us)] ∧
      b2.submitted = b1.submitted ++
        [(kind'.flags, RawSettings.merge (RawSettings.merge p.settings us) vs)] ∧
      b2.profiles[i]? = some { p with
        settings := RawSettings.merge (RawSettings.merge p.settings us) vs } := by
  obtain ⟨i, p, resolved, stored, -, profiles, logged, -⟩ := update_eq_ok first
  obtain ⟨j, q, resolved', stored', -, profiles', logged', -⟩ := update_eq_ok second
  -- the first update kept every lookup UUID, so the second resolves to profile `i` again
  rw [lookupIndex?_withMerged (profiles.trans (set_eq_withMerged stored us)), resolved,
    Option.some.injEq] at resolved'
  subst resolved'
  have inside : i < b.profiles.length := (List.getElem?_eq_some_iff.mp stored).1
  have inside' : i < b1.profiles.length := by rwa [profiles, List.length_set]
  rw [profiles, List.getElem?_set_self inside, Option.some.injEq] at stored'
  subst stored'
  refine ⟨i, p, resolved, stored, logged, logged', ?_⟩
  rw [profiles', List.getElem?_set_self inside']

end MemoryBackend

namespace StoreStep

/-- The updates that a request with this outcome merged into profile `i`: those of a successful
update whose UUID resolves to `i`. -/
def mergedInto (b : MemoryBackend) (i : Nat) : StoreStep → Except Error Unit → List Updates
  | .update uuid selector form, .ok () =>
    match Form.translateAs selector form with
    | .ok (_, us) => if b.lookupIndex? uuid = some i then [us] else []
    | .error _ => []
  | _, _ => []

theorem mergedInto_update_ok {b : MemoryBackend} {i : Nat} {u : Uuid} {selector : String}
    {form : Form} {kind : UpdateKind} {us : Updates}
    (translated : Form.translateAs selector form = .ok (kind, us)) :
    (update u selector form).mergedInto b i (.ok ()) =
      if b.lookupIndex? u = some i then [us] else [] := by
  unfold mergedInto
  dsimp only
  rw [translated]

theorem mergedInto_congr {b b' : MemoryBackend} (resolves : ∀ u, b'.lookupIndex? u = b.lookupIndex? u)
    (i : Nat) (step : StoreStep) (outcome : Except Error Unit) :
    step.mergedInto b' i outcome = step.mergedInto b i outcome := by
  unfold mergedInto
  split
  · simp only [resolves]
  · rfl

end StoreStep

namespace MemoryBackend

/-- One request merges into the stored profiles exactly what `mergedInto` says, and changes
nothing else of them. -/
theorem step_profiles (b : MemoryBackend) (step : StoreStep) :
    (resultState (step.run.run b)).profiles =
      withMerged b.profiles fun i => step.mergedInto b i (resultOutcome (step.run.run b)) := by
  cases step with
  | update u selector form =>
      cases translated : Form.translateAs selector form with
      | error e =>
          rw [StoreStep.run_update_error translated]
          exact (withMerged_nil _).symm
      | ok request =>
          obtain ⟨kind, us⟩ := request
          rw [StoreStep.run_update_ok translated]
          cases ran : (ProfileStore.update u kind us).run b with
          | ok _ b' =>
              obtain ⟨i, p, resolved, stored, -, profiles, -, -⟩ := update_eq_ok ran
              simp only [resultState, resultOutcome, StoreStep.mergedInto_update_ok translated,
                resolved, Option.some.injEq]
              rw [profiles, set_eq_withMerged stored]
          | error e b' =>
              have kept := ProfileStore.update_failKeeps callsKeep u kind us b e b' ran
              exact (store_eq_iff.mp kept).1.trans (withMerged_nil _).symm
  | _ =>
    -- any other request keeps the profiles, and merges nothing
    refine (congrArg Prod.fst (step_keeps_stored _ ?_ b)).trans (withMerged_nil _).symm
    intro _ _ _ other
    cases other

def mergedBy (b : MemoryBackend) (i : Nat) (steps : List StoreStep)
    (outcomes : List (Except Error Unit)) : List Updates :=
  (steps.zip outcomes).flatMap fun (step, outcome) => step.mergedInto b i outcome

theorem runAll_profiles (b : MemoryBackend) (steps : List StoreStep) :
    (StoreStep.runAll b steps).2.profiles =
      withMerged b.profiles fun i => mergedBy b i steps (StoreStep.runAll b steps).1 := by
  induction steps generalizing b with
  | nil => exact (withMerged_nil _).symm
  | cons step rest ih =>
      -- the first request, then the rest of the run from the state it left, where every UUID
      -- resolves as before
      have first := step_profiles b step
      have resolves := lookupIndex?_withMerged first
      simp only [StoreStep.runAll]
      rw [ih, first, withMerged_withMerged]
      simp only [mergedBy, List.zip_cons_cons, List.flatMap_cons, StoreStep.mergedInto_congr resolves]

end MemoryBackend

open MemoryBackend in
/-- Over the in-memory backend, a run of requests leaves each profile with its first settings and
the updates of the successful update requests resolved to it merged in, in order, where a UUID
resolves to the first profile in path order found by it. A failed request leaves the stored
profiles and the logs of submitted updates and of activations as they were; a form that does not
translate fails before any call, over any backend; requests other than updates never change the
stored profiles; an update succeeds exactly when its form translates and its UUID resolves to a
profile that serves the lookup, the read and `update2`; and a successful update logs the merged
settings with the flags 0x2 to apply and 0x1 to save. -/
theorem requests_merge_into_resolved_profiles :
    (∀ (b : MemoryBackend) (steps : List StoreStep),
      (StoreStep.runAll b steps).2.profiles =
        withMerged b.profiles fun i => mergedBy b i steps (StoreStep.runAll b steps).1) ∧
    (∀ (b : MemoryBackend) (u : Uuid) (i : Nat), b.lookupIndex? u = some i ↔ ResolvesTo b u i) ∧
    (∀ (b b' : MemoryBackend) (step : StoreStep) (e : Error), step.run.run b = .error e b' →
      b'.profiles = b.profiles ∧ b'.submitted = b.submitted ∧ b'.activated = b.activated) ∧
    (∀ {σ : Type} [SettingsBackend σ] (u : Uuid) (selector : String) (form : Form) (e : Error),
      Form.translateAs selector form = .error e →
        (StoreStep.update u selector form).run = (throw e : EStateM Error σ Unit)) ∧
    (∀ (b : MemoryBackend) (step : StoreStep),
      (∀ u selector form, step ≠ .update u selector form) →
        (resultState (step.run.run b)).profiles = b.profiles) ∧
    (∀ (b : MemoryBackend) (u : Uuid) (selector : String) (form : Form),
      (∃ b', (StoreStep.update u selector form).run.run b = .ok () b') ↔
        (∃ request, Form.translateAs selector form = .ok request) ∧
          ∃ i p, b.lookupIndex? u = some i ∧ b.profiles[i]? = some p ∧
            ∀ call ∈ updateCalls, call ∉ p.failing) ∧
    (∀ (b b' : MemoryBackend) (u : Uuid) (selector : String) (form : Form) (kind : UpdateKind)
        (us : Updates),
      Form.translateAs selector form = .ok (kind, us) →
      (StoreStep.update u selector form).run.run b = .ok () b' →
      ∃ i p, b.lookupIndex? u = some i ∧ b.profiles[i]? = some p ∧
        b'.submitted = b.submitted ++
          [(⟨if kind = .apply then 0x2 else 0x1⟩, RawSettings.merge p.settings us)]) := by
  refine ⟨runAll_profiles, fun _ _ _ => lookupIndex?_eq_some_iff,
    fun b b' step e failed => store_eq_iff.mp (step_failKeeps step b e b' failed),
    fun _ _ _ _ => StoreStep.run_update_error,
    fun b step notUpdate => congrArg Prod.fst (step_keeps_stored step notUpdate b), ?_, ?_⟩
  · -- an update succeeds when its form translates and its profile serves its calls
    intro b u selector form
    cases translated : Form.translateAs selector form with
    | error e =>
        rw [StoreStep.run_update_error translated]
        constructor
        · rintro ⟨_, ⟨⟩⟩
        · rintro ⟨⟨_, ⟨⟩⟩, -⟩
    | ok request =>
        obtain ⟨kind, us⟩ := request
        rw [StoreStep.run_update_ok translated, update_succeeds_iff]
        exact ⟨fun served => ⟨⟨_, rfl⟩, served⟩, fun ⟨_, served⟩ => served⟩
  intro b b' u selector form kind us translated ran
  rw [StoreStep.run_update_ok translated] at ran
  obtain ⟨i, p, resolved, stored, -, -, logged, -⟩ := update_eq_ok ran
  refine ⟨i, p, resolved, stored, ?_⟩
  rw [logged]
  -- the flags of each kind
  cases kind <;> rfl

end NetConsole
