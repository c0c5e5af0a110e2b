import ImageForge.Cluster.Http
import ImageForge.Proofs.Resource.Metadata
import ImageForge.Proofs.Time.Reading

/-! A status that is merged into the document of an image build, and read again. What it leaves out is
read as it was before. -/
namespace ImageForge

open Json

theorem Decode.instant_render {t : Instant} (h : t.IsValid) :
    Decode.instant (.str t.render) = .ok t := by
  rw [Decode.instant, Instant.parse_render h]

theorem Decode.isValid_of_instant {v : Json} {t : Instant} (h : Decode.instant v = .ok t) :
    t.IsValid := by
  cases v with
  | str s =>
    cases hs : Instant.parse s with
    | error e => simp [Decode.instant, hs] at h
    | ok t' =>
      simp only [Decode.instant, hs, Except.ok.injEq] at h
      exact h ▸ Instant.isValid_of_parse hs
  | null | bool _ | num _ | arr _ | obj _ => cases h

theorem Decode.isValid_of_optional {fields : List (String × Json)} {name : String} {t : Instant}
    (h : Decode.optional fields name Decode.instant = .ok (some t)) : t.IsValid := by
  obtain ⟨v, -, hread⟩ := Decode.read_of_optional h
  exact Decode.isValid_of_instant hread

def InInt64 (n : Int) : Prop := Int64.minValue.toInt ≤ n ∧ n ≤ Int64.maxValue.toInt

theorem Decode.int64_ofInt {n : Int} (h : InInt64 n) : Decode.int64 (.ofInt n) = .ok n := if_pos h

theorem Decode.inInt64_of_int64 {v : Json} {n : Int} (h : Decode.int64 v = .ok n) : InInt64 n := by
  unfold int64 integerIn at h
  split at h
  next =>
    split at h
    next hin =>
      cases h
      exact hin
    next => cases h
  next => cases h

theorem Condition.ofJson_toJson {c : Condition} (h : c.lastTransitionTime.IsValid) :
    Condition.ofJson c.toJson = .ok c := by
  obtain ⟨type, status, reason, message, time⟩ := c
  have htype : ConditionType.ofJson type.toJson = .ok type := by cases type <;> rfl
  have hstatus : ConditionStatus.ofJson status.toJson = .ok status := by cases status <;> rfl
  let c : Condition := ⟨type, status, reason, message, time⟩
  have hfound : ∀ key, lookup key (fieldsOf c.toJson) = _ := lookup_ofEntries (by simp)
  have hfields : Decode.record "Condition" parts c.toJson = .ok (fieldsOf c.toJson) := rfl
  simp [c, Condition.ofJson, hfields, Decode.field?, hfound, lookup_cons, htype, hstatus,
    Decode.instant_render h, Decode.text, Decode.required, bind, Except.bind, Except.map, pure,
    Except.pure]

theorem Condition.isValid_of_ofJson {v : Json} {c : Condition} (h : Condition.ofJson v = .ok c) :
    c.lastTransitionTime.IsValid := by
  obtain ⟨fields, -, h⟩ := ok_of_bind h
  obtain ⟨time, htime, h⟩ := ok_of_bind h
  iterate 7 obtain ⟨_, -, h⟩ := ok_of_bind h
  obtain ⟨t, hrequired, h⟩ := ok_of_bind h
  cases h
  cases time with
  | none => cases hrequired
  | some t' =>
    cases hrequired
    obtain ⟨v, -, hread⟩ := Decode.read_of_field? htime
    exact Decode.isValid_of_instant hread

namespace ImageBuildStatus

variable {fields : List (String × Json)} {s new old : ImageBuildStatus}

/-- The status that the fields of an object hold. -/
structure Reads (fields : List (String × Json)) (s : ImageBuildStatus) : Prop where
  builderJobName : Decode.optional fields "builderJobName" Decode.text = .ok s.builderJobName
  completionTime : Decode.optional fields "completionTime" Decode.instant = .ok s.completionTime
  conditions : (Decode.field? fields "conditions" (Decode.list Condition.ofJson)).map (·.getD []) =
    .ok s.conditions
  observedGeneration :
    Decode.optional fields "observedGeneration" Decode.int64 = .ok s.observedGeneration
  outputUrl : Decode.optional fields "outputURL" Decode.text = .ok s.outputUrl
  phase : (Decode.field? fields "phase" Phase.ofJson).map (·.getD .pending) = .ok s.phase
  startTime : Decode.optional fields "startTime" Decode.instant = .ok s.startTime

theorem Reads.ofFields (h : Reads fields s) : ofFields fields = .ok s := by
  obtain ⟨conditions, hconditions, hcs⟩ := ok_of_map h.conditions
  obtain ⟨phase, hphase, hp⟩ := ok_of_map h.phase
  simp only [ImageBuildStatus.ofFields, h.builderJobName, h.completionTime, hconditions,
    h.observedGeneration, h.outputUrl, hphase, h.startTime, hcs, hp, bind, Except.bind, pure,
    Except.pure]

theorem reads_of_ofFields (h : ofFields fields = .ok s) : Reads fields s := by
  obtain ⟨builderJobName, hname, h⟩ := ok_of_bind h
  obtain ⟨completionTime, hcompletion, h⟩ := ok_of_bind h
  obtain ⟨conditions, hconditions, h⟩ := ok_of_bind h
  obtain ⟨observedGeneration, hgeneration, h⟩ := ok_of_bind h
  obtain ⟨outputUrl, hurl, h⟩ := ok_of_bind h
  obtain ⟨phase, hphase, h⟩ := ok_of_bind h
  obtain ⟨startTime, hstart, h⟩ := ok_of_bind h
  cases h
  exact ⟨hname, hcompletion, by rw [hconditions]; rfl, hgeneration, hurl, by rw [hphase]; rfl,
    hstart⟩

theorem reads_of_ofObject {v : Json} (h : ofObject v = .ok s) : Reads (fieldsOf v) s := by
  obtain ⟨fields, hv, h⟩ := ok_of_bind h
  cases v with
  | obj fs =>
    cases hv
    exact reads_of_ofFields h
  | null | bool _ | num _ | str _ | arr _ => cases hv

/-- A status whose times and generation can be written and read again. -/
structure InRange (s : ImageBuildStatus) : Prop where
  startTime : ∀ t, s.startTime = some t → t.IsValid
  completionTime : ∀ t, s.completionTime = some t → t.IsValid
  conditions : ∀ c ∈ s.conditions, c.lastTransitionTime.IsValid
  observedGeneration : ∀ n, s.observedGeneration = some n → InInt64 n

theorem Reads.inRange (h : Reads fields s) : InRange s where
  startTime t ht := Decode.isValid_of_optional (h.startTime.trans (congrArg _ ht))
  completionTime t ht := Decode.isValid_of_optional (h.completionTime.trans (congrArg _ ht))
  conditions c hc := by
    obtain ⟨cs, hcs, hget⟩ := ok_of_map h.conditions
    cases cs with
    | none =>
      rw [← hget] at hc
      cases hc
    | some cs =>
      obtain ⟨v, -, hread⟩ := Decode.read_of_field? hcs
      rw [← hget] at hc
      cases v with
      | arr items =>
        obtain ⟨item, -, hitem⟩ := exists_of_mapM_ok hread hc
        exact Condition.isValid_of_ofJson hitem
      | null | bool _ | num _ | str _ | obj _ => cases hread
  observedGeneration n hn := by
    obtain ⟨v, -, hread⟩ := Decode.read_of_optional (h.observedGeneration.trans (congrArg _ hn))
    exact Decode.inInt64_of_int64 hread

/-- The status that is read after one status was merged into another: what the new one leaves out is as
in the old one. -/
def laidOver (new old : ImageBuildStatus) : ImageBuildStatus where
  phase := new.phase
  conditions := if new.conditions.isEmpty then old.conditions else new.conditions
  startTime := new.startTime.or old.startTime
  completionTime := new.completionTime.or old.completionTime
  builderJobName := new.builderJobName.or old.builderJobName
  outputUrl := new.outputUrl.or old.outputUrl
  observedGeneration := new.observedGeneration.or old.observedGeneration

theorem nodup_keys_toJson (s : ImageBuildStatus) : ((fieldsOf s.toJson).map (·.1)).Nodup :=
  (ordered_ofEntries _).nodup

theorem lookup_toJson (s : ImageBuildStatus) (name : String) :
    lookup name (fieldsOf s.toJson) = ([
      ("phase", some s.phase.toJson),
      ("conditions",
        if s.conditions.isEmpty then none else some (.arr (s.conditions.map (·.toJson)))),
      ("startTime", s.startTime.map (.str ·.render)),
      ("completionTime", s.completionTime.map (.str ·.render)),
      ("builderJobName", s.builderJobName.map .str),
      ("outputURL", s.outputUrl.map .str),
      ("observedGeneration", s.observedGeneration.map .ofInt)].find? (·.1 = name)).bind (·.2) :=
  lookup_ofOptional (by simp) name

/-- A status is read from the fields that another status was merged into. -/
theorem Reads.merged (h : Reads fields old) (hnew : new.InRange) :
    Reads (mergeFields fields (fieldsOf new.toJson)) (new.laidOver old) where
  builderJobName := by
    have hfound : lookup "builderJobName" (fieldsOf new.toJson) = new.builderJobName.map .str := by
      simp [lookup_toJson]
    exact Decode.optional_merged new.nodup_keys_toJson hfound (fun _ => trivial) (fun _ _ => rfl)
      h.builderJobName
  completionTime := by
    have hfound : lookup "completionTime" (fieldsOf new.toJson) =
        new.completionTime.map (.str ·.render) := by simp [lookup_toJson]
    exact Decode.optional_merged new.nodup_keys_toJson hfound (fun _ => trivial)
      (fun t ht => Decode.instant_render (hnew.completionTime t ht)) h.completionTime
  conditions := by
    obtain ⟨cs, hcs, hold⟩ := ok_of_map h.conditions
    have hfound : lookup "conditions" (fieldsOf new.toJson) =
        (if new.conditions.isEmpty then none else some new.conditions).map
          (.arr <| ·.map (·.toJson)) := by
      simp only [lookup_toJson]
      split <;> simp
    have hread : ∀ news, (if new.conditions.isEmpty then none else some new.conditions) = some news →
        Decode.list Condition.ofJson (.arr (news.map (·.toJson))) = .ok news := by
      intro news hnews
      have hsame : new.conditions = news := by
        split at hnews
        · cases hnews
        · exact Option.some.inj hnews
      exact mapM_map_ok fun c hc => Condition.ofJson_toJson (hnew.conditions c (hsame ▸ hc))
    rw [Decode.field?_merged new.nodup_keys_toJson hfound (fun _ => trivial) hread hcs, Except.map,
      laidOver]
    split
    · exact congrArg _ hold
    · rfl
  observedGeneration := by
    have hfound : lookup "observedGeneration" (fieldsOf new.toJson) =
        new.observedGeneration.map .ofInt := by simp [lookup_toJson]
    exact Decode.optional_merged new.nodup_keys_toJson hfound (fun _ => trivial)
      (fun n hn => Decode.int64_ofInt (hnew.observedGeneration n hn)) h.observedGeneration
  outputUrl := by
    have hfound : lookup "outputURL" (fieldsOf new.toJson) = new.outputUrl.map .str := by
      simp [lookup_toJson]
    exact Decode.optional_merged new.nodup_keys_toJson hfound (fun _ => trivial) (fun _ _ => rfl)
      h.outputUrl
  phase := by
    obtain ⟨phase, hphase, -⟩ := ok_of_map h.phase
    have hfound : lookup "phase" (fieldsOf new.toJson) = (some new.phase).map Phase.toJson := by
      simp [lookup_toJson]
    have hread : ∀ p, some new.phase = some p → Phase.ofJson p.toJson = .ok p := by
      intro p _
      cases p <;> rfl
    rw [Decode.field?_merged new.nodup_keys_toJson hfound (fun _ => trivial) hread hphase]
    rfl
  startTime := by
    have hfound : lookup "startTime" (fieldsOf new.toJson) = new.startTime.map (.str ·.render) := by
      simp [lookup_toJson]
    exact Decode.optional_merged new.nodup_keys_toJson hfound (fun _ => trivial)
      (fun t ht => Decode.instant_render (hnew.startTime t ht)) h.startTime

end ImageBuildStatus

theorem Metadata.inInt64_of_ofJson {v : Json} {m : Metadata} {n : Int} (h : Metadata.ofJson v = .ok m)
    (hn : m.generation = some n) : InInt64 n := by
  obtain ⟨-, normal, -, -, hm⟩ := Metadata.reads_of_ofJson h
  obtain ⟨v, -, hread⟩ := Decode.read_of_optional (hm.generation.trans (congrArg _ hn))
  exact Decode.inInt64_of_int64 hread

namespace ImageBuild

variable {doc : Json} {fields : List (String × Json)} {b : ImageBuild} {status : ImageBuildStatus}

/-- The image build that the fields of a document hold. -/
structure Reads (fields : List (String × Json)) (b : ImageBuild) : Prop where
  metadata : Decode.field? fields "metadata" Metadata.ofJson = .ok (some b.metadata)
  spec : Decode.field? fields "spec" ImageBuildSpec.ofJson = .ok (some b.spec)
  status : Decode.optional fields "status" ImageBuildStatus.ofObject = .ok b.status

theorem Reads.ofJson (h : Reads fields b) : ofJson (.obj fields) = .ok b := by
  simp only [ImageBuild.ofJson, Decode.fields, h.metadata, h.spec, h.status, Decode.required, bind,
    Except.bind, pure, Except.pure]

theorem reads_of_ofJson (h : ofJson doc = .ok b) : Reads (fieldsOf doc) b := by
  obtain ⟨fields, hdoc, h⟩ := ok_of_bind h
  obtain ⟨metadata, hmetadata, h⟩ := ok_of_bind h
  obtain ⟨spec, hspec, h⟩ := ok_of_bind h
  obtain ⟨status, hstatus, h⟩ := ok_of_bind h
  obtain ⟨m, hm, h⟩ := ok_of_bind h
  obtain ⟨s, hs, h⟩ := ok_of_bind h
  cases h
  cases doc with
  | obj fs =>
    cases hdoc
    cases metadata with
    | none => cases hm
    | some m' =>
      cases hm
      cases spec with
      | none => cases hs
      | some s' =>
        cases hs
        exact ⟨hmetadata, hspec, hstatus⟩
  | null | bool _ | num _ | str _ | arr _ => cases hdoc

theorem Reads.recorded (h : Reads fields b) :
    ImageBuildStatus.Reads (fieldsOf ((lookup "status" fields).getD .null)) (b.status.getD {}) := by
  have hnone : ImageBuildStatus.Reads [] {} := ⟨rfl, rfl, rfl, rfl, rfl, rfl, rfl⟩
  have hstatus := h.status
  rw [Decode.optional] at hstatus
  cases hv : lookup "status" fields with
  | none =>
    rw [hv] at hstatus
    exact Except.ok.inj hstatus ▸ hnone
  | some v =>
    rw [hv] at hstatus
    cases v with
    | null => exact Except.ok.inj hstatus ▸ hnone
    | bool _ | num _ | str _ | arr _ | obj _ =>
      dsimp only [Decode.nullable] at hstatus
      obtain ⟨s, hread, hs⟩ := ok_of_map hstatus
      rw [← hs]
      exact ImageBuildStatus.reads_of_ofObject hread

theorem ofJson_statusPatch (h : ofJson doc = .ok b) (hs : status.InRange) :
    ofJson (doc.mergePatch (Cluster.Http.statusPatch status)) =
      .ok { b with status := some (status.laidOver (b.status.getD {})) } := by
  have hb := reads_of_ofJson h
  have hpatched : doc.mergePatch (Cluster.Http.statusPatch status) =
      .obj (insert "status" (.obj (mergeFields (fieldsOf ((lookup "status" (fieldsOf doc)).getD .null))
        (fieldsOf status.toJson))) (fieldsOf doc)) :=
    mergePatch_field doc "status" (fieldsOf status.toJson)
  rw [hpatched]
  refine Reads.ofJson ⟨?_, ?_, ?_⟩
  · exact (Decode.field?_congr (lookup_insert_of_ne (by decide) _ _) _).trans hb.metadata
  · exact (Decode.field?_congr (lookup_insert_of_ne (by decide) _ _) _).trans hb.spec
  · rw [Decode.optional, lookup_insert_self]
    exact congrArg (Except.map some) (hb.recorded.merged hs).ofFields

end ImageBuild

theorem Cluster.Http.body_of_exchange {manager : String} {key : Key} {status : ImageBuildStatus}
    {request : HttpRequest} (h : exchange manager (.patchStatus key status) = .send request) :
    request.body = some (statusPatch status) := by
  simp only [exchange, mergePatch?, write?, request?] at h
  split at h
  · cases h
  split at h
  · cases h
  cases htarget : Address.Target.parse? _ with
  | none =>
    rw [htarget] at h
    cases h
  | some target =>
    rw [htarget] at h
    cases h
    rfl

end ImageForge
