import NetConsole.Store.Memory
import NetConsole.Proofs.Translation

/-! The kind of an error, through its wrappers. Which errors a computation can end in is
`FailsWith P x`, built up through the monad's operations like a postcondition. -/

namespace NetConsole

namespace Error

@[simp] theorem kind_context (c : String) (e : Error) : (context c e).kind = e.kind := rfl

@[simp] theorem root_context (c : String) (e : Error) : (context c e).root = e.root := rfl

theorem message_context (c : String) (e : Error) :
    (context c e).message = c ++ ": " ++ e.message := rfl

def wrap (e : Error) (contexts : List String) : Error :=
  contexts.foldl (fun e c => context c e) e

@[simp] theorem wrap_nil (e : Error) : e.wrap [] = e := rfl

@[simp] theorem wrap_cons (e : Error) (c : String) (contexts : List String) :
    e.wrap (c :: contexts) = (context c e).wrap contexts := rfl

theorem kind_wrap (e : Error) (contexts : List String) : (e.wrap contexts).kind = e.kind := by
  induction contexts generalizing e with
  | nil => rfl
  | cons c rest ih => rw [wrap_cons, ih, kind_context]

theorem root_wrap (e : Error) (contexts : List String) : (e.wrap contexts).root = e.root := by
  induction contexts generalizing e with
  | nil => rfl
  | cons c rest ih => rw [wrap_cons, ih, root_context]

theorem message_wrap (e : Error) (contexts : List String) :
    (e.wrap contexts).message = String.join (contexts.reverse.map (· ++ ": ")) ++ e.message := by
  induction contexts generalizing e with
  | nil => simp
  | cons c rest ih =>
      rw [wrap_cons, ih, message_context]
      simp [String.append_assoc]

theorem root_root (e : Error) : e.root.root = e.root := by
  induction e with
  | invalidSetting _ _ e ih => exact ih
  | context _ e ih => exact ih
  | _ => rfl

def Coherent (e : Error) : Prop := e.kind = e.root.kind

def OfKind (k : ErrorKind) (e : Error) : Prop := e.kind = k ∧ e.root.kind = k

theorem OfKind.coherent {k : ErrorKind} {e : Error} (of : OfKind k e) : Coherent e :=
  of.1.trans of.2.symm

@[simp] theorem ofKind_context {k : ErrorKind} {c : String} {e : Error} :
    OfKind k (context c e) ↔ OfKind k e := Iff.rfl

@[simp] theorem coherent_context {c : String} {e : Error} : Coherent (context c e) ↔ Coherent e :=
  Iff.rfl

theorem ofKind_invalidSetting {k : ErrorKind} {key value : String} {e : Error} :
    OfKind k (invalidSetting key value e) ↔ k = .validation ∧ e.root.kind = .validation := by
  constructor
  · rintro ⟨rfl, root⟩
    exact ⟨rfl, root⟩
  · rintro ⟨rfl, root⟩
    exact ⟨rfl, root⟩

end Error

def FailsWith {ε α : Type} (P : ε → Prop) (x : Except ε α) : Prop :=
  ∀ e, x = .error e → P e

namespace FailsWith

variable {ε α β : Type} {P Q : ε → Prop}

theorem ok (a : α) : FailsWith P (Except.ok a : Except ε α) := by
  intro e failed
  cases failed

theorem error {e : ε} (holds : P e) : FailsWith P (Except.error e : Except ε α) := by
  intro e' failed
  cases failed
  exact holds

theorem bind {x : Except ε α} {f : α → Except ε β} (first : FailsWith P x)
    (rest : ∀ a, FailsWith P (f a)) : FailsWith P (x >>= f) := by
  intro e failed
  cases ran : x with
  | error e' =>
      rw [ran] at failed
      cases failed
      exact first e ran
  | ok a =>
      rw [ran] at failed
      exact rest a e failed

theorem map {x : Except ε α} (f : α → β) (fails : FailsWith P x) : FailsWith P (f <$> x) := by
  intro e failed
  cases ran : x with
  | error e' =>
      rw [ran] at failed
      cases failed
      exact fails e ran
  | ok a =>
      rw [ran] at failed
      cases failed

theorem ite {c : Prop} [Decidable c] {x y : Except ε α} (yes : FailsWith P x) (no : FailsWith P y) :
    FailsWith P (if c then x else y) := by
  split
  · exact yes
  · exact no

theorem mapError {x : Except ε α} {f : ε → ε} (fails : FailsWith P x) (wraps : ∀ e, P e → Q (f e)) :
    FailsWith Q (x.mapError f) := by
  intro e failed
  cases ran : x with
  | error e' =>
      rw [ran] at failed
      cases failed
      exact wraps e' (fails e' ran)
  | ok a =>
      rw [ran] at failed
      cases failed

theorem mapM {xs : List α} {f : α → Except ε β} (each : ∀ a ∈ xs, FailsWith P (f a)) :
    FailsWith P (xs.mapM f) := by
  induction xs with
  | nil => exact ok []
  | cons a rest ih =>
      rw [List.mapM_cons]
      refine bind (each a List.mem_cons_self) fun b => bind (ih fun a' member => ?_) fun bs => ok _
      exact each a' (List.mem_cons_of_mem a member)

theorem forM {xs : List α} {f : α → Except ε PUnit} (each : ∀ a ∈ xs, FailsWith P (f a)) :
    FailsWith P (xs.forM f) := by
  induction xs with
  | nil => exact ok _
  | cons a rest ih =>
      -- `forM` on a cons runs the head, then the rest
      exact bind (each a List.mem_cons_self) fun _ => ih fun a' member =>
        each a' (List.mem_cons_of_mem a member)

end FailsWith

namespace Form

open Error (OfKind ofKind_invalidSetting)

theorem checkbox_failsWith (value on off : String) :
    FailsWith (OfKind .validation) (checkbox value on off) := by
  unfold checkbox
  split
  · exact .ok _
  · split
    · exact .ok _
    · exact .error ⟨rfl, rfl⟩

theorem bounded_failsWith (raw : String) : FailsWith (OfKind .validation) (bounded raw) := by
  unfold bounded
  split
  · exact .error ⟨rfl, rfl⟩
  · split
    · exact .ok _
    · exact .error ⟨rfl, rfl⟩

theorem channel_failsWith (raw : String) : FailsWith (OfKind .validation) (channel raw) := by
  unfold channel
  refine .bind (bounded_failsWith raw) fun v => ?_
  dsimp only
  split
  · exact .bind (.error ⟨rfl, rfl⟩) fun _ => .ok _
  · exact .ok _

theorem ssid_failsWith (value : String) : FailsWith (OfKind .validation) (ssid value) := by
  unfold ssid
  dsimp only
  split
  · exact .error ⟨rfl, rfl⟩
  · exact .ok _

theorem check_failsWith {α : Type} [TextChoice α] (a : α) :
    FailsWith (OfKind .validation) (TextChoice.check a) := by
  unfold TextChoice.check Description.check
  split
  · exact .error ⟨rfl, rfl⟩
  · exact .ok _

theorem checked_failsWith {α : Type} [TextChoice α] (raw : String) :
    FailsWith (OfKind .validation) (checked raw : Except Error α) :=
  .bind (check_failsWith _) fun _ => .ok _

theorem choiceSet_failsWith {α : Type} [TextChoice α] (values : List String) :
    FailsWith (OfKind .validation) (choiceSet values : Except Error (ChoiceSet α)) :=
  .bind (.forM fun a _ => check_failsWith a) fun _ => .ok _

theorem parseField_failsWith (key : SettingsKey) (values : List String) :
    FailsWith (OfKind .validation) (parseField key values) := by
  unfold parseField
  dsimp only
  -- one goal for each field in the order of the rules, and one where a setting has no more
  repeat' split
  · exact .map _ (checkbox_failsWith _ _ _)
  · exact .map _ (bounded_failsWith _)
  · exact .ok _
  · exact .map _ (checked_failsWith _)
  · exact .map _ (channel_failsWith _)
  · exact .map _ (checkbox_failsWith _ _ _)
  · exact .map _ (checked_failsWith _)
  · exact .map _ (ssid_failsWith _)
  · exact .ok _
  · exact .map _ (choiceSet_failsWith _)
  · exact .map _ (checked_failsWith _)
  · exact .map _ (choiceSet_failsWith _)
  · exact .map _ (choiceSet_failsWith _)
  · exact .ok _
  · exact .ok _
  · exact .ok _

theorem ofKind_of_failed {raw : String} {values : List String} {e : Error}
    (failed : fieldOutcome raw values = .failed e) : OfKind .validation e := by
  obtain ⟨key, cause, -, refused, rfl⟩ := fieldOutcome_eq_failed_iff.mp failed
  exact ofKind_invalidSetting.mpr ⟨rfl, (parseField_failsWith key values cause refused).2⟩

theorem translateFields_failsWith (fields : List (String × List String)) (us : Updates) :
    FailsWith (OfKind .validation) (translateFields fields us) := by
  intro e refused
  obtain ⟨field, -, found⟩ :=
    List.exists_of_findSome?_eq_some ((translateFields_eq_error_iff fields us e).mp refused)
  exact ofKind_of_failed (failure?_eq_some_iff.mp found)

theorem checkChannelBand_failsWith (us : Updates) :
    FailsWith (OfKind .validation) (checkChannelBand us) := by
  intro e refused
  obtain ⟨c, -, -, -, rfl⟩ := (checkChannelBand_eq_error_iff us e).mp refused
  exact ⟨rfl, rfl⟩

theorem translate_failsWith (form : Form) : FailsWith (OfKind .validation) form.translate :=
  .bind (translateFields_failsWith _ _) fun _ => .bind (checkChannelBand_failsWith _) fun _ => .ok _

theorem translateAs_failsWith (selector : String) (form : Form) :
    FailsWith (OfKind .validation) (translateAs selector form) := by
  refine .bind (fun e refused => ?_) fun _ => .bind (translate_failsWith form) fun _ => .ok _
  rw [UpdateKind.eq_of_parse_eq_error refused]
  exact ⟨rfl, rfl⟩

end Form

namespace RawSection

open Error (OfKind)
open NetConsole.Bus (Value)

variable {α : Type} {s : Option RawSection} {key : String} {name : Option String}
  {read : Value → Option α}

theorem lookup_failsWith : FailsWith (OfKind .decode) (lookup s key name read) := by
  unfold lookup
  split
  · exact .ok _
  · split
    · exact .ok _
    · exact .error ⟨rfl, rfl⟩

theorem required_failsWith : FailsWith (OfKind .decode) (required s key name read) := by
  unfold required
  refine .bind lookup_failsWith fun found => ?_
  cases found with
  | some a => exact .ok a
  | none => exact .error ⟨rfl, rfl⟩

theorem optional_failsWith {default : α} :
    FailsWith (OfKind .decode) (optional s key name read default) :=
  .bind lookup_failsWith fun _ => .ok _

end RawSection

namespace ProfileSettings

open Error (OfKind)
open RawSection (required_failsWith optional_failsWith)

theorem decodeConnHead_failsWith (s : Option RawSection) :
    FailsWith (OfKind .decode) (decodeConnHead s) := by
  unfold decodeConnHead
  refine .bind required_failsWith fun rawUuid => ?_
  dsimp only
  split
  · -- the UUID parses: the reads after it
    exact .bind (.ok _) fun _ => .bind required_failsWith fun _ => .bind optional_failsWith fun _ =>
      .bind optional_failsWith fun _ => .bind optional_failsWith fun _ =>
      .bind optional_failsWith fun _ => .bind required_failsWith fun _ =>
      .bind required_failsWith fun _ => .bind optional_failsWith fun _ => .ok _
  · exact .error ⟨rfl, rfl⟩

theorem decodeConn_failsWith (s : Option RawSection) : FailsWith (OfKind .decode) (decodeConn s) :=
  .bind (decodeConnHead_failsWith s) fun _ => .bind optional_failsWith fun _ =>
    .bind optional_failsWith fun _ => .ok _

theorem decodeWifi_failsWith (s : Option RawSection) : FailsWith (OfKind .decode) (decodeWifi s) :=
  .bind optional_failsWith fun _ => .bind optional_failsWith fun _ =>
    .bind optional_failsWith fun _ => .bind optional_failsWith fun _ =>
    .bind optional_failsWith fun _ => .ok _

theorem decodeWifiSec_failsWith (s secrets : Option RawSection) :
    FailsWith (OfKind .decode) (decodeWifiSec s secrets) :=
  .bind (.bind optional_failsWith fun _ => .bind optional_failsWith fun _ =>
    .bind optional_failsWith fun _ => .bind optional_failsWith fun _ =>
    .bind optional_failsWith fun _ => .ok _) fun _ => .ok _

theorem ofEntry_failsWith (entry : RawSection) :
    FailsWith (OfKind .decode) (decodeAddresses.IpAddress.ofEntry entry) := by
  unfold decodeAddresses.IpAddress.ofEntry
  refine .bind required_failsWith fun rawAddr => .bind required_failsWith fun len => ?_
  cases IpAddr.parse? rawAddr with
  | none => exact .error ⟨rfl, rfl⟩
  | some addr =>
      -- the address parses: the prefix must fit it
      refine .bind (.ok addr) fun _ => ?_
      dsimp only
      exact .ite (.bind (.error ⟨rfl, rfl⟩) fun _ => .ok _) (.ok _)

theorem decodeAddresses_failsWith (s : Option RawSection) :
    FailsWith (OfKind .decode) (decodeAddresses s) :=
  .bind optional_failsWith fun _ => .mapM fun entry _ => ofEntry_failsWith entry

theorem decodeIpv4_failsWith (s : Option RawSection) : FailsWith (OfKind .decode) (decodeIpv4 s) :=
  .bind (decodeAddresses_failsWith s) fun _ => .bind optional_failsWith fun _ =>
    .bind optional_failsWith fun _ => .ok _

theorem decodeIpv6_failsWith (s : Option RawSection) : FailsWith (OfKind .decode) (decodeIpv6 s) :=
  .bind (decodeAddresses_failsWith s) fun _ => .bind optional_failsWith fun _ =>
    .bind optional_failsWith fun _ => .ok _

theorem inSection_failsWith {β : Type} (section_ : String) {r : Except Error β}
    (fails : FailsWith (OfKind .decode) r) : FailsWith (OfKind .decode) (inSection section_ r) :=
  .mapError fails fun _ of => Error.ofKind_context.mpr of

theorem decode_failsWith (raw : RawSettings) (secrets : Option RawSettings) :
    FailsWith (OfKind .decode) (decode raw secrets) := by
  unfold decode
  refine .bind (inSection_failsWith _ (decodeConn_failsWith _)) fun conn => ?_
  dsimp only
  -- the Wi-Fi sections are read for a Wi-Fi profile only, the IP sections after them either way
  refine .ite (.bind (inSection_failsWith _ (decodeWifi_failsWith _)) fun _ =>
      .bind (inSection_failsWith _ (decodeWifiSec_failsWith _ _)) fun _ =>
      .bind (.ok _) fun ⟨_, _⟩ => ?_) (.bind (.ok _) fun ⟨_, _⟩ => ?_)
  all_goals
    exact .bind (inSection_failsWith _ (decodeIpv4_failsWith _)) fun _ =>
      .bind (inSection_failsWith _ (decodeIpv6_failsWith _)) fun _ => .ok _

end ProfileSettings

theorem EStateM.run_tryCatch {ε σ α : Type} (x : EStateM ε σ α) (h : ε → EStateM ε σ α) (s : σ) :
    (tryCatch x h).run s = match x.run s with
      | .error e s' => (h e).run s'
      | .ok a s' => .ok a s' := by
  show EStateM.tryCatch x h s = match x s with
    | .error e s' => h e s'
    | .ok a s' => .ok a s'
  delta EStateM.tryCatch
  dsimp only
  cases x s <;> rfl

@[simp] theorem EStateM.run_throw_any {ε σ α : Type} (e : ε) (s : σ) :
    (throw e : EStateM ε σ α).run s = .error e s := rfl

def RunFailsWith {ε σ α : Type} (P : ε → Prop) (m : EStateM ε σ α) : Prop :=
  ∀ s e s', m.run s = .error e s' → P e

namespace RunFailsWith

variable {ε σ α β : Type} {P Q : ε → Prop}

theorem pure (a : α) : RunFailsWith P (pure a : EStateM ε σ α) := by
  intro s e s' failed
  cases failed

theorem throw {e : ε} (holds : P e) : RunFailsWith P (throw e : EStateM ε σ α) := by
  intro s e' s' failed
  cases failed
  exact holds

theorem get : RunFailsWith P (get : EStateM ε σ σ) := by
  intro s e s' failed
  cases failed

theorem modify (f : σ → σ) : RunFailsWith P (modify f : EStateM ε σ PUnit) := by
  intro s e s' failed
  cases failed

theorem any (x : EStateM ε σ α) : RunFailsWith (fun _ => True) x := fun _ _ _ _ => True.intro

theorem bind {x : EStateM ε σ α} {f : α → EStateM ε σ β} (first : RunFailsWith P x)
    (rest : ∀ a, RunFailsWith P (f a)) : RunFailsWith P (x >>= f) := by
  intro s e s' failed
  rw [EStateM.run_bind] at failed
  cases ran : x.run s with
  | ok a t =>
      rw [ran] at failed
      exact rest a t e s' failed
  | error e' t =>
      rw [ran] at failed
      cases failed
      exact first s _ _ ran

theorem ite {c : Prop} [Decidable c] {x y : EStateM ε σ α} (yes : RunFailsWith P x)
    (no : RunFailsWith P y) : RunFailsWith P (if c then x else y) := by
  split
  · exact yes
  · exact no

theorem tryCatch {x : EStateM ε σ α} {h : ε → EStateM ε σ α} (first : RunFailsWith P x)
    (handler : ∀ e, P e → RunFailsWith Q (h e)) : RunFailsWith Q (tryCatch x h) := by
  intro s e s' failed
  rw [EStateM.run_tryCatch] at failed
  cases ran : x.run s with
  | ok a t =>
      rw [ran] at failed
      cases failed
  | error e' t =>
      rw [ran] at failed
      exact handler e' (first s e' t ran) t e s' failed

theorem mapM {xs : List α} {f : α → EStateM ε σ β} (each : ∀ a ∈ xs, RunFailsWith P (f a)) :
    RunFailsWith P (xs.mapM f) := by
  induction xs with
  | nil => exact pure []
  | cons a rest ih =>
      rw [List.mapM_cons]
      refine bind (each a List.mem_cons_self) fun b => bind (ih fun a' member => ?_) fun bs => pure _
      exact each a' (List.mem_cons_of_mem a member)

theorem forM {xs : List α} {f : α → EStateM ε σ PUnit} (each : ∀ a ∈ xs, RunFailsWith P (f a)) :
    RunFailsWith P (xs.forM f) := by
  induction xs with
  | nil => exact pure _
  | cons a rest ih =>
      exact bind (each a List.mem_cons_self) fun _ => ih fun a' member =>
        each a' (List.mem_cons_of_mem a member)

end RunFailsWith

/-- What the errors of the store's operations satisfy: every error of the backend's calls, every
decode error and the refused reload, each under any context. -/
structure StoreErrors (σ : Type) [SettingsBackend σ] (P : Error → Prop) : Prop where
  wrapped : ∀ c e, P e → P (.context c e)
  decoded : ∀ e, Error.OfKind .decode e → P e
  reloadFailed : P .reloadFailed
  listConnections : RunFailsWith P (SettingsBackend.listConnections : EStateM Error σ (List String))
  connectionByUuid : ∀ u, RunFailsWith P (SettingsBackend.connectionByUuid u : EStateM Error σ String)
  connectionMeta : ∀ path,
    RunFailsWith P (SettingsBackend.connectionMeta path : EStateM Error σ ProfileMeta)
  getSettings : ∀ path,
    RunFailsWith P (SettingsBackend.getSettings path : EStateM Error σ RawSettings)
  update2 : ∀ path raw flags,
    RunFailsWith P (SettingsBackend.update2 path raw flags : EStateM Error σ Unit)
  activateConnection : ∀ path,
    RunFailsWith P (SettingsBackend.activateConnection path : EStateM Error σ String)
  reloadConnections : RunFailsWith P (SettingsBackend.reloadConnections : EStateM Error σ Bool)

namespace ProfileStore

variable {σ : Type} [SettingsBackend σ] {P : Error → Prop}

theorem records_failsWith (rs : List LogRecord) : RunFailsWith P (records rs : EStateM Error σ Unit) :=
  .forM fun _ _ => .modify _

theorem withContext_failsWith {α : Type} {c : String} {m : EStateM Error σ α}
    (errors : StoreErrors σ P) (fails : RunFailsWith P m) : RunFailsWith P (withContext c m) :=
  .tryCatch fails fun e holds => .throw (errors.wrapped c e holds)

theorem dump_failsWith (errors : StoreErrors σ P) (path : String) :
    RunFailsWith P (dump path : EStateM Error σ ConnProfile) := by
  unfold dump
  refine .bind (.modify _) fun _ => .bind (errors.connectionMeta path) fun _ =>
    .bind (withContext_failsWith errors (errors.getSettings path)) fun raw => ?_
  dsimp only
  -- secrets that cannot be read leave the PSK empty and fail nothing
  refine .ite (.bind (.tryCatch (.any _) fun _ _ => .bind (.modify _) fun _ => .pure _) fun _ => ?_)
    (.bind (.pure _) fun _ => ?_)
  all_goals
    refine .bind (records_failsWith _) fun _ => ?_
    split
    · exact .pure _
    · rename_i e refused
      exact .throw (errors.decoded e (ProfileSettings.decode_failsWith raw _ e refused))

theorem get_failsWith (errors : StoreErrors σ P) (uuid : Uuid) :
    RunFailsWith P (get uuid : EStateM Error σ ConnProfile) :=
  .bind (errors.connectionByUuid uuid) fun path => withContext_failsWith errors (dump_failsWith errors path)

theorem list_failsWith (errors : StoreErrors σ P) :
    RunFailsWith P (list : EStateM Error σ (List ConnProfile)) :=
  .bind (withContext_failsWith errors errors.listConnections) fun _ =>
    .bind (.mapM fun path _ => withContext_failsWith errors (dump_failsWith errors path)) fun _ =>
    .pure _

theorem update_failsWith (errors : StoreErrors σ P) (uuid : Uuid) (kind : UpdateKind) (us : Updates) :
    RunFailsWith P (update uuid kind us : EStateM Error σ Unit) :=
  .bind (withContext_failsWith errors (.bind (errors.connectionByUuid uuid) fun path =>
      .bind (withContext_failsWith errors (errors.getSettings path)) fun _ =>
      .bind (records_failsWith _) fun _ => errors.update2 _ _ _)) fun _ => .modify _

theorem activate_failsWith (errors : StoreErrors σ P) (uuid : Uuid) :
    RunFailsWith P (activate uuid : EStateM Error σ Unit) :=
  .bind (errors.connectionByUuid uuid) fun path =>
    .bind (withContext_failsWith errors (errors.activateConnection path)) fun _ => .modify _

theorem reload_failsWith (errors : StoreErrors σ P) : RunFailsWith P (reload : EStateM Error σ Unit) :=
  .bind (withContext_failsWith errors errors.reloadConnections) fun _ =>
    .ite (.throw errors.reloadFailed) (.pure _)

end ProfileStore

namespace MemoryBackend

inductive FailureCause : Error → ErrorKind → Prop
  | unknownUuid (u : Uuid) : FailureCause (.profileNotFound u) .notFound
  | callFailed (failure : Bus.BusError) : FailureCause (.busCall "mock call failed" failure) .remote
  | reloadRefused : FailureCause .reloadFailed .remote
  | undecodable {e : Error} : e.root = e → e.kind = .decode → FailureCause e .decode

def StoreFailure (e : Error) : Prop := FailureCause e.root e.kind

theorem FailureCause.kind_eq {cause : Error} {k : ErrorKind} (because : FailureCause cause k) :
    cause.kind = k := by
  cases because with
  | undecodable _ decode => exact decode
  | _ => rfl

theorem StoreFailure.coherent {e : Error} (failure : StoreFailure e) : e.Coherent :=
  (FailureCause.kind_eq failure).symm

theorem profileFor_failsWith (path call : String) :
    RunFailsWith StoreFailure (profileFor path call) := by
  unfold profileFor
  refine .bind .get fun b => ?_
  split
  · exact .throw (.callFailed _)
  · split
    · exact .throw (.callFailed _)
    · exact .ite (.throw (.callFailed _)) (.pure _)

theorem storeErrors : StoreErrors MemoryBackend StoreFailure where
  wrapped _ _ failure := failure
  decoded e decode := by
    show FailureCause e.root e.kind
    rw [decode.1]
    exact .undecodable (Error.root_root e) decode.2
  reloadFailed := .reloadRefused
  listConnections := .bind .get fun _ => .ite (.throw (.callFailed _)) (.pure _)
  connectionByUuid u := by
    refine .bind .get fun b => ?_
    split
    · exact .throw (.unknownUuid u)
    · exact .bind (profileFor_failsWith _ _) fun _ => .pure _
  connectionMeta _ := .bind (profileFor_failsWith _ _) fun _ => .pure _
  getSettings _ := .bind (profileFor_failsWith _ _) fun _ => .pure _
  update2 _ _ _ := .bind (profileFor_failsWith _ _) fun _ => .modify _
  activateConnection _ :=
    .bind (profileFor_failsWith _ _) fun _ => .bind (.modify _) fun _ => .bind .get fun _ => .pure _
  reloadConnections := by
    refine .bind .get fun b => ?_
    split
    · exact .pure _
    · exact .throw (.callFailed _)

theorem connectionByUuid_unknown {b : MemoryBackend} {u : Uuid} (unknown : b.lookupIndex? u = none) :
    (SettingsBackend.connectionByUuid u : EStateM Error MemoryBackend String).run b =
      .error (.profileNotFound u) b := by
  simp only [SettingsBackend.connectionByUuid, EStateM.run_bind, EStateM.run_get, unknown,
    EStateM.run_throw_any]

/-- A UUID the backend does not know fails each operation that looks it up, before any other
call. -/
theorem get_unknown {b : MemoryBackend} {u : Uuid} (unknown : b.lookupIndex? u = none) :
    (ProfileStore.get u).run b = .error (.profileNotFound u) b := by
  simp only [ProfileStore.get, EStateM.run_bind, connectionByUuid_unknown unknown]

theorem update_unknown {b : MemoryBackend} {u : Uuid} (unknown : b.lookupIndex? u = none)
    (kind : UpdateKind) (us : Updates) :
    (ProfileStore.update u kind us).run b =
      .error (.context ("couldn't update connection profile " ++ u.text) (.profileNotFound u)) b := by
  simp only [ProfileStore.update, ProfileStore.updateProfile, ProfileStore.withContext,
    EStateM.run_bind, EStateM.run_tryCatch, connectionByUuid_unknown unknown, EStateM.run_throw_any]

theorem activate_unknown {b : MemoryBackend} {u : Uuid} (unknown : b.lookupIndex? u = none) :
    (ProfileStore.activate u).run b = .error (.profileNotFound u) b := by
  simp only [ProfileStore.activate, EStateM.run_bind, connectionByUuid_unknown unknown]

theorem reload_refused {b : MemoryBackend} (refused : b.reloadAnswer = some false) :
    (ProfileStore.reload (σ := MemoryBackend)).run b = .error .reloadFailed b := by
  simp only [ProfileStore.reload, ProfileStore.withContext, EStateM.run_bind, EStateM.run_tryCatch,
    SettingsBackend.reloadConnections, EStateM.run_get, refused, EStateM.run_pure]
  -- the answer false is refused
  rfl

end MemoryBackend

open MemoryBackend in
/-- Wrapping keeps the kind and the root of an error and puts each context before the message, at
any depth. Translation fails only with validation errors and decoding only with decode errors,
each down to its root. The store over the in-memory backend fails only with an error whose kind
is that of its cause: `notFound` for a UUID it does not know, `remote` for a refused call and for
a reload that answers false, `decode` for a profile that does not decode, under whatever contexts
the store adds. -/
theorem error_class_survives_wrapping :
    (∀ (e : Error) (contexts : List String),
      (e.wrap contexts).kind = e.kind ∧ (e.wrap contexts).root = e.root ∧
        (e.wrap contexts).message = String.join (contexts.reverse.map (· ++ ": ")) ++ e.message) ∧
    (∀ (selector : String) (form : Form) (e : Error),
      (Form.translateAs selector form = .error e → Error.OfKind .validation e) ∧
        (form.translate = .error e → Error.OfKind .validation e)) ∧
    (∀ (raw : RawSettings) (secrets : Option RawSettings) (e : Error),
      ProfileSettings.decode raw secrets = .error e → Error.OfKind .decode e) ∧
    (∀ (b b' : MemoryBackend) (e : Error),
      ((∃ u, (ProfileStore.get u).run b = .error e b') ∨ ProfileStore.list.run b = .error e b' ∨
          (∃ u kind us, (ProfileStore.update u kind us).run b = .error e b') ∨
          (∃ u, (ProfileStore.activate u).run b = .error e b') ∨
          ProfileStore.reload.run b = .error e b') →
        e.Coherent ∧ StoreFailure e) ∧
    (∀ (b : MemoryBackend) (u : Uuid), b.lookupIndex? u = none →
      (ProfileStore.get u).run b = .error (.profileNotFound u) b ∧
        (∀ kind us, (ProfileStore.update u kind us).run b =
          .error (.context ("couldn't update connection profile " ++ u.text) (.profileNotFound u)) b) ∧
        (ProfileStore.activate u).run b = .error (.profileNotFound u) b) ∧
    (∀ b : MemoryBackend, b.reloadAnswer = some false →
      (ProfileStore.reload (σ := MemoryBackend)).run b = .error .reloadFailed b) := by
  refine ⟨fun e contexts => ⟨Error.kind_wrap e contexts, Error.root_wrap e contexts,
      Error.message_wrap e contexts⟩,
    fun selector form e => ⟨Form.translateAs_failsWith selector form e, Form.translate_failsWith form e⟩,
    fun raw secrets e => ProfileSettings.decode_failsWith raw secrets e, ?_,
    fun b u unknown => ⟨get_unknown unknown, update_unknown unknown, activate_unknown unknown⟩,
    fun b refused => reload_refused refused⟩
  intro b b' e failed
  -- every operation is built from the backend's calls, whose failures are classified
  have failure : StoreFailure e := by
    rcases failed with ⟨u, failed⟩ | failed | ⟨u, kind, us, failed⟩ | ⟨u, failed⟩ | failed
    · exact ProfileStore.get_failsWith storeErrors u b e b' failed
    · exact ProfileStore.list_failsWith storeErrors b e b' failed
    · exact ProfileStore.update_failsWith storeErrors u kind us b e b' failed
    · exact ProfileStore.activate_failsWith storeErrors u b e b' failed
    · exact ProfileStore.reload_failsWith storeErrors b e b' failed
  exact ⟨failure.coherent, failure⟩

end NetConsole
