import ImageForge.Controller.BuilderJob
import ImageForge.Proofs.Outcome

/-! An image build for which a builder job was made, and that job. -/
namespace ImageForge.Controller

variable {b : ImageBuild} {settings : BuilderSettings} {job : Job}

/-- The variables, volumes and mounts of a builder pod. -/
def podPart (spec : ImageBuildSpec) (provisioner output : PodPart) : PodPart :=
  ((basePart spec).append (secretPart spec)).append (provisioner.append output)

/-- A builder job is made only when every part of the spec gives its part of the pod. -/
theorem builderJob_ok (h : builderJob b settings = .ok job) :
    ∃ name ns provisioner output,
      b.metadata.name = some name ∧ b.metadata.ns = some ns ∧
      Text.isBlankText b.spec.baseImage = false ∧
      provisionerPart b.spec = .ok provisioner ∧ outputPart b = .ok output ∧
      job = {
        metadata := {
          name := some (builderJobName name), ns := some ns, labels := some (builderLabels name) }
        spec := some {
          backoffLimit := some 0
          template := {
            metadata := some { labels := some (builderLabels name) }
            spec := some (builderPod b.spec settings (podPart b.spec provisioner output)) } } } := by
  unfold builderJob at h
  cases hn : b.metadata.name with
  | none => simp [hn] at h
  | some name =>
    cases hns : b.metadata.ns with
    | none => simp [hn, hns] at h
    | some ns =>
      simp only [hn, hns] at h
      cases hb : Text.isBlankText b.spec.baseImage with
      | true => simp [hb, bind, Except.bind] at h
      | false =>
        simp only [hb, Bool.false_eq_true, if_false] at h
        obtain ⟨provisioner, hp, h⟩ := ok_of_bind h
        obtain ⟨output, ho, h⟩ := ok_of_bind h
        cases h
        exact ⟨name, ns, provisioner, output, rfl, rfl, rfl, hp, ho, rfl⟩

theorem managedBy_mem_builderLabels (name : String) :
    (managedByLabel, managedBy) ∈ builderLabels name := by
  have hne : imageBuildLabel ≠ managedByLabel := by decide
  simp only [builderLabels, TextMap.ofEntries, List.foldl_cons, List.foldl_nil, TextMap.insert,
    if_neg hne]
  split <;> simp

theorem withOwner_ok {j : Job} (h : withOwner j b = .ok job) :
    ∃ name uid, b.metadata.name = some name ∧ b.metadata.uid = some uid ∧
      job = { j with metadata := { j.metadata with
        ownerReferences := some
          [⟨ImageBuild.apiVersion, ImageBuild.kind, name, uid, some true, some true⟩] } } := by
  unfold withOwner ownerReference at h
  cases hu : b.metadata.uid with
  | none => simp [hu, Except.map] at h
  | some uid =>
    cases hn : b.metadata.name with
    | none => simp [hu, hn, Except.map] at h
    | some name =>
      simp only [hu, hn, Except.map, Except.ok.injEq] at h
      exact ⟨name, uid, rfl, rfl, h.symm⟩

theorem ownedBuilderJob_metadata (h : ownedBuilderJob b settings = .ok job) :
    ∃ name ns uid, b.metadata.name = some name ∧ b.metadata.ns = some ns ∧
      b.metadata.uid = some uid ∧ job.metadata = {
        name := some (builderJobName name)
        ns := some ns
        labels := some (builderLabels name)
        ownerReferences := some
          [⟨ImageBuild.apiVersion, ImageBuild.kind, name, uid, some true, some true⟩] } := by
  obtain ⟨j, hj, h⟩ := ok_of_bind h
  obtain ⟨name, ns, _, _, hn, hns, -, -, -, rfl⟩ := builderJob_ok hj
  obtain ⟨name', uid, hn', hu, rfl⟩ := withOwner_ok h
  cases hn.symm.trans hn'
  exact ⟨name, ns, uid, hn, hns, hu, rfl⟩

/-- An image build for which a job can be made, and which carries the finalizer already. -/
def plainImageBuild : ImageBuild where
  metadata := {
    name := some "web"
    ns := some "images"
    uid := some "uid-1"
    finalizers := some [ImageBuild.operatorFinalizer] }
  spec := {
    arch := .arm64
    baseImage := "ubuntu"
    baseImagePullSecretName := none
    provisioner := none
    output := {
      imageName := none
      pvc := some ⟨"artifacts", none, false⟩
      objectStorage := none
      registry := none
      formats := [.tgz] }
    publish := none }
  status := none

end ImageForge.Controller
