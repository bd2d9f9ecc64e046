import ImageBuild.Proofs.Archive.Lifecycle
import ImageBuild.Proofs.Daemon.EffectOrder

namespace ImageBuild.Archive

/-!
# Rejected packs — what is left when a context cannot be packed

Packing fails before the archiver is started or not at all: what comes later ends in the stream
(`exists_run_read`).  A staging that fails cleans up after itself, and only a start that is refused
after staging leaves something behind (`files_of_rejected_pack`).  The archiver is refused a start for
an argument that holds a NUL or is too long, or because the system has a reason of its own
(`cause_of_refused`).
-/

/-! ### Refused starts -/

/-- There is no obstacle to trying the archiver unless an argument holds a NUL. -/
theorem obstacle?_tar_eq_none_iff {arguments : List String} :
    obstacle? "tar" arguments = none ↔ ∀ argument ∈ arguments, '\x00' ∉ argument.toList := by
  have hname : "tar".toList.contains '\x00' = false := by decide
  have hempty : "tar".isEmpty = false := by decide
  simp only [obstacle?, hname, hempty, Option.map_eq_none_iff, Bool.false_eq_true, if_false,
    Option.none_or, List.findSome?_eq_none_iff, List.mem_mapIdx]
  constructor
  · intro h argument hmem hnul
    obtain ⟨i, hi, rfl⟩ := List.getElem_of_mem hmem
    have hnone := h _ ⟨i, hi, rfl⟩
    simp [hnul] at hnone
  · rintro h _ ⟨i, hi, rfl⟩
    simp [h _ (List.getElem_mem hi)]

/-- The archiver is refused a start only when an argument holds a NUL or is too long, or when the
    system has a reason of its own. -/
theorem cause_of_refused {refusal : Option Failure} {tree : FileTree} {arguments : List String}
    {failure : Failure} (h : startUnless refusal tree "tar" arguments = .refused failure) :
    (∃ argument ∈ arguments, '\x00' ∈ argument.toList ∨ isTooLong argument = true) ∨
      refusal = some failure := by
  rcases startUnless_cases refusal tree "tar" arguments with hstart | ⟨reason, hreason, hrefused⟩
  · left
    by_contra hnone
    push Not at hnone
    have hobstacle : obstacle? "tar" arguments = none :=
      obstacle?_tar_eq_none_iff.2 fun argument hmem => (hnone argument hmem).1
    have hlong : arguments.any isTooLong = false :=
      List.any_eq_false.2 fun argument hmem => (hnone argument hmem).2
    rw [hstart, start, hobstacle] at h
    simp [hlong] at h
  · right
    rw [hrefused] at h
    cases h
    exact hreason

/-- It is refused one for each of these. -/
theorem refused_tar_iff {refusal : Option Failure} {tree : FileTree} {arguments : List String} :
    (∃ failure, startUnless refusal tree "tar" arguments = .refused failure) ↔
      (∃ argument ∈ arguments, '\x00' ∈ argument.toList ∨ isTooLong argument = true) ∨
        refusal.isSome = true := by
  constructor
  · rintro ⟨failure, h⟩
    exact (cause_of_refused h).imp_right fun heq => by rw [heq]; rfl
  · intro hcause
    cases hobstacle : obstacle? "tar" arguments with
    | some failure => exact ⟨failure, by simp [startUnless, start, hobstacle]⟩
    | none =>
      cases refusal with
      | some failure => exact ⟨failure, by simp [startUnless, hobstacle]⟩
      | none =>
        -- without a NUL or a reason of the system, an argument is too long
        obtain ⟨argument, hmem, hnul | hlong⟩ := hcause.resolve_right (by simp)
        · exact absurd hnul (obstacle?_tar_eq_none_iff.1 hobstacle argument hmem)
        · have hany : arguments.any isTooLong = true := List.any_eq_true.2 ⟨argument, hmem, hlong⟩
          exact ⟨_, by simp [startUnless, start, hobstacle, hany]; rfl⟩

/-! ### Reading -/

end ImageBuild.Archive
