import ImageForge.Controller.Operator
import ImageForge.Proofs.Reconcile.Construction
import ImageForge.Proofs.Retry.Growth
import Mathlib.Data.List.Basic

/-! Each image build is tried again after delays of its own. They grow with its failures since its last
success or release. -/
namespace ImageForge

namespace Cluster

/-- A key with a namespace as namespaces are: without a slash. -/
def Key.WellFormed (k : Key) : Prop := '/' ∉ k.ns.toList

instance (k : Key) : Decidable k.WellFormed := inferInstanceAs (Decidable (¬ _))

/-- A well-formed key is read off its text: the namespace ends at the first slash. -/
theorem Key.eq_of_text_eq {k k' : Key} (hk : k.WellFormed) (hk' : k'.WellFormed)
    (h : k.text = k'.text) : k = k' := by
  have hchars : k.ns.toList ++ '/' :: k.name.toList = k'.ns.toList ++ '/' :: k'.name.toList := by
    simpa [Key.text] using congrArg String.toList h
  have hcut : ∀ ns name : List Char, '/' ∉ ns → (ns ++ '/' :: name).takeWhile (· ≠ '/') = ns := by
    intro ns name hns
    rw [List.takeWhile_append_of_pos fun c hc => by simpa using ne_of_mem_of_not_mem hc hns]
    simp
  have hns : k.ns.toList = k'.ns.toList := by
    rw [← hcut k.ns.toList k.name.toList hk, hchars, hcut _ _ hk']
  rw [hns, List.append_cancel_left_eq, List.cons.injEq] at hchars
  exact congrArg₂ Key.mk (String.toList_injective hns) (String.toList_injective hchars.2)

end Cluster

namespace Controller

open Cluster

/-- What befalls an image build: a failure of its reconciliation is answered, or it succeeds or is
released. -/
inductive Happening
  | failed (key : Key) (e : ControllerError)
  | settled (key : Key)

namespace Happening

def key : Happening → Key
  | failed key _ | settled key => key

def isFailure : Happening → Bool
  | failed _ _ => true
  | settled _ => false

def isRetryable : Happening → Bool
  | failed _ e => e.isRetryable
  | settled _ => false

end Happening

/-- How many failures an image build has been tried again after since it last succeeded or was
released. A history begins with what came last. -/
def pendingFailures (key : Key) (history : List Happening) : Nat :=
  ((history.filter (·.key = key)).takeWhile (·.isFailure)).countP (·.isRetryable)

variable {config : Config} {rs : Retries} {text t : String} {key k : Key} {b : ImageBuild}
  {d : Backoff} {e : ControllerError} {o : Operator} {now : Instant} {action : Action}
  {history : List Happening} {h : Happening}

namespace Retries

theorem get?_put (rs : Retries) (text t : String) (d : Backoff) :
    (rs.put text d).get? t = if t = text then some d else rs.get? t := by
  induction rs with
  | nil => by_cases ht : text = t <;> simp [put, get?, ht, eq_comm]
  | cons entry rest ih =>
    obtain ⟨k, d'⟩ := entry
    by_cases hk : k = text
    · subst hk
      by_cases ht : k = t
      · simp [put, get?, ht]
      · simp [put, get?, ht, Ne.symm ht]
    · by_cases ht : k = t
      · subst ht
        simp [put, get?, hk]
      · simpa [put, get?, hk, ht] using ih

theorem get?_reset (rs : Retries) (text t : String) :
    (rs.reset text).get? t = if t = text then none else rs.get? t := by
  by_cases ht : t = text
  · subst ht
    simp [reset, get?, List.find?_eq_none]
  · rw [if_neg ht, get?, reset, List.find?_filter]
    congr 2
    funext entry
    by_cases he : entry.1 = t <;> simp [he, ht]

theorem mem_keys_iff : t ∈ rs.map (·.1) ↔ (rs.get? t).isSome := by
  simp [get?, List.find?_isSome]

theorem mem_keys_put : t ∈ (rs.put text d).map (·.1) ↔ t = text ∨ t ∈ rs.map (·.1) := by
  rw [mem_keys_iff, mem_keys_iff, get?_put]
  by_cases ht : t = text <;> simp [ht]

theorem nodup_keys_put (h : (rs.map (·.1)).Nodup) : ((rs.put text d).map (·.1)).Nodup := by
  induction rs with
  | nil => simp [put]
  | cons entry rest ih =>
    obtain ⟨hnew, hrest⟩ := List.nodup_cons.mp h
    by_cases hk : entry.1 = text
    · rw [put, if_pos hk]
      exact List.nodup_cons.mpr ⟨hk ▸ hnew, hrest⟩
    · rw [put, if_neg hk]
      refine List.nodup_cons.mpr ⟨fun hmem => ?_, ih hrest⟩
      exact (mem_keys_put.mp hmem).elim hk hnew

theorem keys_reset (rs : Retries) (text : String) :
    (rs.reset text).map (·.1) = (rs.map (·.1)).filter (· ≠ text) := by
  rw [reset, List.filter_map]
  rfl

theorem reset_reset (rs : Retries) (text : String) : (rs.reset text).reset text = rs.reset text := by
  simp [reset, List.filter_filter]

end Retries

theorem pendingFailures_settled (key : Key) (history : List Happening) :
    pendingFailures key (.settled key :: history) = 0 := by
  simp [pendingFailures, Happening.key, Happening.isFailure]

theorem pendingFailures_failed (key : Key) (e : ControllerError) (history : List Happening) :
    pendingFailures key (.failed key e :: history) =
      pendingFailures key history + if e.isRetryable then 1 else 0 := by
  simp [pendingFailures, Happening.key, Happening.isFailure, List.countP_cons,
    Happening.isRetryable]

theorem pendingFailures_of_ne (hne : h.key ≠ key) :
    pendingFailures key (h :: history) = pendingFailures key history := by
  simp [pendingFailures, hne]

def Config.firstDelays (config : Config) : Backoff :=
  .new (.ofNat config.backoffMin) (.ofNat config.backoffMax)

/-- The delays in use are those that the failures since the last success or release have led to. -/
structure Tracks (config : Config) (history : List Happening) (rs : Retries) : Prop where
  distinct : (rs.map (·.1)).Nodup
  wellFormed : ∀ t ∈ rs.map (·.1), ∃ key : Key, key.WellFormed ∧ key.text = t
  delays : ∀ key : Key, key.WellFormed → rs.get? key.text =
    if pendingFailures key history = 0 then none
    else some (config.firstDelays.after (pendingFailures key history))

namespace Tracks

theorem nil (config : Config) : Tracks config [] [] where
  distinct := List.nodup_nil
  wellFormed := by simp
  delays := by simp [Retries.get?, pendingFailures]

theorem text_ne (hkey : key.WellFormed) (hk : k.WellFormed) (hne : k ≠ key) : k.text ≠ key.text :=
  fun h => hne (Key.eq_of_text_eq hk hkey h)

/-- A success or release of an image build forgets its delays and no others. -/
theorem settled (ht : Tracks config history rs) (hkey : key.WellFormed) :
    Tracks config (.settled key :: history) (rs.reset key.text) where
  distinct := by
    rw [Retries.keys_reset]
    exact ht.distinct.filter _
  wellFormed t hmem := by
    rw [Retries.keys_reset] at hmem
    exact ht.wellFormed t (List.mem_of_mem_filter hmem)
  delays k hk := by
    rw [Retries.get?_reset]
    by_cases hne : k = key
    · subst hne
      rw [if_pos rfl, pendingFailures_settled, if_pos rfl]
    · rw [if_neg (text_ne hkey hk hne), ht.delays k hk,
        pendingFailures_of_ne (h := .settled key) (Ne.symm hne)]

theorem getD_eq (ht : Tracks config history rs) (hkey : key.WellFormed) :
    (rs.get? key.text).getD config.firstDelays =
      config.firstDelays.after (pendingFailures key history) := by
  rw [ht.delays key hkey]
  split
  next hzero => rw [hzero, Option.getD_none, Backoff.after_zero]
  next => rw [Option.getD_some]

theorem afterFailure_eq (ht : Tracks config history rs) (hkey : key.WellFormed)
    (he : e.isRetryable) :
    rs.afterFailure config key.text e =
      (.requeue (config.firstDelays.after (pendingFailures key history)).next.1.toNat,
        rs.put key.text (config.firstDelays.after (pendingFailures key history + 1))) := by
  rw [Retries.afterFailure, if_pos he, Retries.nextDelay, Backoff.after_succ, ← ht.getD_eq hkey]
  rfl

/-- A failure of an image build takes the next of its delays if it is tried again, and none
otherwise; the delays of all others stay. -/
theorem failed (ht : Tracks config history rs) (hkey : key.WellFormed) (e : ControllerError) :
    Tracks config (.failed key e :: history) (rs.afterFailure config key.text e).2 := by
  by_cases he : e.isRetryable
  · rw [ht.afterFailure_eq hkey he]
    exact {
      distinct := Retries.nodup_keys_put ht.distinct
      wellFormed := by
        intro t hmem
        obtain rfl | hmem := Retries.mem_keys_put.mp hmem
        · exact ⟨key, hkey, rfl⟩
        · exact ht.wellFormed t hmem
      delays := by
        intro k hk
        rw [Retries.get?_put]
        by_cases hne : k = key
        · subst hne
          rw [if_pos rfl, pendingFailures_failed, if_pos he, if_neg (Nat.succ_ne_zero _)]
        · rw [if_neg (text_ne hkey hk hne), ht.delays k hk,
            pendingFailures_of_ne (h := .failed key e) (Ne.symm hne)] }
  · have hsame : ∀ k : Key,
        pendingFailures k (.failed key e :: history) = pendingFailures k history := by
      intro k
      by_cases hne : k = key
      · subst hne
        rw [pendingFailures_failed, if_neg he, Nat.add_zero]
      · exact pendingFailures_of_ne (Ne.symm hne)
    rw [Retries.afterFailure, if_neg he]
    exact ⟨ht.distinct, ht.wellFormed, fun k hk => by rw [hsame, ht.delays k hk]⟩

theorem mem_keys_iff (ht : Tracks config history rs) :
    t ∈ rs.map (·.1) ↔ ∃ k : Key, k.WellFormed ∧ k.text = t ∧ 0 < pendingFailures k history := by
  constructor
  · intro hmem
    obtain ⟨k, hk, rfl⟩ := ht.wellFormed t hmem
    refine ⟨k, hk, rfl, Nat.pos_of_ne_zero fun hzero => ?_⟩
    rw [Retries.mem_keys_iff, ht.delays k hk, if_pos hzero] at hmem
    cases hmem
  · rintro ⟨k, hk, rfl, hpos⟩
    rw [Retries.mem_keys_iff, ht.delays k hk, if_neg hpos.ne']
    rfl

end Tracks

namespace Operator

theorem snapshotKey_of_watched (hb : watchedKey b = .ok key) : snapshotKey b = key := by
  cases hname : b.metadata.name with
  | none => simp [watchedKey, hname] at hb
  | some name =>
    cases hns : b.metadata.ns with
    | none => simp [watchedKey, hname, hns] at hb
    | some ns =>
      have hkey : key = ⟨ns, name⟩ := by simpa [watchedKey, hname, hns] using hb.symm
      rw [hkey, snapshotKey, Metadata.displayName, hname, hns]
      rfl

theorem attempt_of_ok (hb : watchedKey b = .ok key) (hr : (o.attempt b now).result = .ok action) :
    (o.attempt b now).operator.config = o.config ∧
      (o.attempt b now).operator.retries = o.retries.reset key.text := by
  cases hrun : ((Controller.reconcile o.config.builder key now).run o.store).result with
  | none => simp [attempt, hb, reconcile, hrun] at hr
  | some outcome =>
    cases outcome with
    | error e => simp [attempt, hb, reconcile, hrun, Except.map] at hr
    | ok verdict =>
      obtain ⟨_, released⟩ := verdict
      cases released <;>
        simp [attempt, hb, reconcile, hrun, Except.map, Retries.afterVerdict, Retries.reset_reset]

theorem attempt_of_error (hr : (o.attempt b now).result = .error e) :
    (o.attempt b now).operator.config = o.config ∧
      (o.attempt b now).operator.retries = o.retries := by
  cases hb : watchedKey b with
  | error _ => simp [attempt, hb]
  | ok key =>
    cases hrun : ((Controller.reconcile o.config.builder key now).run o.store).result with
    | none => simp [attempt, hb, reconcile, hrun]
    | some outcome =>
      cases outcome with
      | error _ => simp [attempt, hb, reconcile, hrun, Except.map, Retries.afterVerdict]
      | ok _ => simp [attempt, hb, reconcile, hrun, Except.map] at hr

theorem failurePolicy_of_watched (hb : watchedKey b = .ok key) (e : ControllerError) :
    o.failurePolicy b e = ((o.retries.afterFailure o.config key.text e).1,
      { o with retries := (o.retries.afterFailure o.config key.text e).2 }) := by
  rw [failurePolicy, snapshotKey_of_watched hb]

end Operator

/-- What a reconciliation means for the delays: only a release is of any. -/
def releases (key : Key) : Option (Except ControllerError Verdict) → List Happening
  | some (.ok { released := true, .. }) => [.settled key]
  | _ => []

/-- The controller at work, with what has befallen its image builds. Attempts for them and answers
to their failures come in any order, and between any two of them the cluster changes in any way. -/
inductive Works (config : Config) : List Happening → Operator → Prop
  | begins (s : Store) : Works config [] { config, store := s }
  | meanwhile {history : List Happening} {o : Operator} (before : Works config history o)
      (s : Store) : Works config history { o with store := s }
  | reconciles {history : List Happening} {o : Operator} {key : Key}
      (before : Works config history o) (hkey : key.WellFormed) (now : Instant) :
      Works config
        (releases key ((Controller.reconcile o.config.builder key now).run o.store).result ++ history)
        (o.reconcile key now).operator
  | succeeds {history : List Happening} {o : Operator} {b : ImageBuild} {key : Key} {now : Instant}
      {action : Action} (before : Works config history o) (hb : watchedKey b = .ok key)
      (hkey : key.WellFormed) (hr : (o.attempt b now).result = .ok action) :
      Works config (.settled key :: history) (o.attempt b now).operator
  | fails {history : List Happening} {o : Operator} {b : ImageBuild} {now : Instant}
      {e : ControllerError} (before : Works config history o)
      (hr : (o.attempt b now).result = .error e) :
      Works config history (o.attempt b now).operator
  | answers {history : List Happening} {o : Operator} {b : ImageBuild} {key : Key}
      (before : Works config history o) (hb : watchedKey b = .ok key) (hkey : key.WellFormed)
      (e : ControllerError) : Works config (.failed key e :: history) (o.failurePolicy b e).2

theorem Tracks.reconciled (ht : Tracks config history rs) (hkey : key.WellFormed)
    (outcome : Except ControllerError Verdict) :
    Tracks config (releases key (some outcome) ++ history) (rs.afterVerdict key outcome) := by
  match outcome with
  | .ok ⟨_, true⟩ => exact ht.settled hkey
  | .ok ⟨_, false⟩ | .error _ => exact ht

/-- At any time the delays in use are those that the failures have led to. -/
theorem Works.tracks (hw : Works config history o) :
    o.config = config ∧ Tracks config history o.retries := by
  induction hw with
  | begins s => exact ⟨rfl, .nil config⟩
  | meanwhile _ s ih => exact ih
  | @reconciles history o key _ hkey now ih =>
    cases hrun : ((Controller.reconcile o.config.builder key now).run o.store).result with
    | none =>
      simpa [Operator.reconcile, hrun, releases] using ih
    | some outcome =>
      simpa [Operator.reconcile, hrun] using And.intro ih.1 (ih.2.reconciled hkey outcome)
  | succeeds _ hb hkey hr ih =>
    obtain ⟨hconfig, hretries⟩ := Operator.attempt_of_ok hb hr
    rw [hconfig, hretries]
    exact ⟨ih.1, ih.2.settled hkey⟩
  | fails _ hr ih =>
    obtain ⟨hconfig, hretries⟩ := Operator.attempt_of_error hr
    rwa [hconfig, hretries]
  | answers _ hb hkey e ih =>
    obtain ⟨rfl, ht⟩ := ih
    rw [Operator.failurePolicy_of_watched hb]
    exact ⟨rfl, ht.failed hkey e⟩

namespace Works

theorem answer_eq (hw : Works config history o) (hb : watchedKey b = .ok key)
    (hkey : key.WellFormed) (e : ControllerError) :
    (o.failurePolicy b e).1 =
      if e.isRetryable then
        .requeue (config.firstDelays.after (pendingFailures key history)).next.1.toNat
      else .awaitChange := by
  obtain ⟨rfl, ht⟩ := hw.tracks
  rw [Operator.failurePolicy_of_watched hb]
  split
  next he => rw [ht.afterFailure_eq hkey he]
  next he => rw [Retries.afterFailure, if_neg he]

/-- The retryable failures of an image build since its last success or release are answered by its
delays in order, whatever befalls others. Any other failure is answered by none and changes nothing.
A success begins the delays anew, under the key that failures are counted under, and delays are kept
exactly of those image builds that are being tried again. -/
theorem delays_of_own_failures (hw : Works config history o) (hb : watchedKey b = .ok key)
    (hkey : key.WellFormed) :
    (∀ e, e.isRetryable → (o.failurePolicy b e).1 =
        .requeue (config.firstDelays.after (pendingFailures key history)).next.1.toNat) ∧
      (∀ e, ¬ e.isRetryable → o.failurePolicy b e = (.awaitChange, o)) ∧
      (∀ history' o', Works config history' o' →
        history'.filter (·.key = key) = history.filter (·.key = key) →
        ∀ e, (o'.failurePolicy b e).1 = (o.failurePolicy b e).1) ∧
      (∀ now e, (o.attempt b now).result = .error e →
        (o.attempt b now).operator.retries = o.retries) ∧
      (∀ now action, (o.attempt b now).result = .ok action →
        (o.attempt b now).operator.retries = o.retries.reset (snapshotKey b).text ∧
        ∀ e, e.isRetryable → ((o.attempt b now).operator.failurePolicy b e).1 =
          .requeue config.firstDelays.next.1.toNat) ∧
      (o.retries.map (·.1)).Nodup ∧
      ∀ t, t ∈ o.retries.map (·.1) ↔
        ∃ k : Key, k.WellFormed ∧ k.text = t ∧ 0 < pendingFailures k history := by
  have ht := hw.tracks.2
  refine ⟨fun e he => ?_, fun e he => ?_, fun history' o' hw' hown e => ?_, fun now e hr => ?_,
    fun now action hr => ⟨?_, fun e he => ?_⟩, ht.distinct, fun t => ht.mem_keys_iff⟩
  · rw [hw.answer_eq hb hkey, if_pos he]
  · rw [Operator.failurePolicy_of_watched hb, Retries.afterFailure, if_neg he]
  · rw [hw'.answer_eq hb hkey, hw.answer_eq hb hkey, pendingFailures, pendingFailures, hown]
  · exact (Operator.attempt_of_error hr).2
  · rw [(Operator.attempt_of_ok hb hr).2, Operator.snapshotKey_of_watched hb]
  · rw [(hw.succeeds hb hkey hr).answer_eq hb hkey, if_pos he, pendingFailures_settled,
      Backoff.after_zero]

end Works

def neighbourBuild : ImageBuild :=
  { plainImageBuild with metadata := { plainImageBuild.metadata with name := some "db" } }

/-- An image build hangs twice, and a neighbour has a conflict in between. The next failure is the
third of the one, which has the third delay, and the second of the other. -/
theorem third_delay_beside_neighbour :
    let web : Key := ⟨"images", "web"⟩
    let db : Key := ⟨"images", "db"⟩
    let hung := ControllerError.timeout web.text
    let conflict := ControllerError.cluster (.conflict "db")
    web.WellFormed ∧ db.WellFormed ∧
      ∃ o, Works {} [.failed web hung, .failed db conflict, .failed web hung] o ∧
        (o.failurePolicy plainImageBuild hung).1 = .requeue 10 ∧
        (o.failurePolicy neighbourBuild conflict).1 = .requeue 5 := by
  intro web db hung conflict
  have hweb : web.WellFormed := by decide
  have hdb : db.WellFormed := by decide
  let start : Operator := { config := {}, store := { stalled := [.getImageBuild] } }
  have hcut : (start.attempt plainImageBuild ⟨0, 0⟩).result = .error hung := rfl
  have honce := ((Works.begins start.store).fails hcut).answers (b := plainImageBuild) rfl hweb hung
  have hbeside := honce.answers (b := neighbourBuild) rfl hdb conflict
  have htwice := hbeside.answers (b := plainImageBuild) rfl hweb hung
  exact ⟨hweb, hdb, _, htwice, (htwice.delays_of_own_failures rfl hweb).1 hung rfl,
    (htwice.delays_of_own_failures (b := neighbourBuild) rfl hdb).1 conflict rfl⟩

end Controller

end ImageForge
