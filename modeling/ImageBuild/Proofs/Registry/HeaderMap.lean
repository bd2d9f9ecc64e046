import ImageBuild.Registry.HeaderMap
import ImageBuild.Proofs.Members
import Mathlib.Data.List.Induction

namespace ImageBuild.Registry

/-!
# Runs on a header map — the last writer of a name decides

Attaching credentials in place does to the headers what `attach` computes, and nothing when that
fails (`run_attachTo`).  So every step says by itself what it leaves under a name, if anything
(`HeaderStep.leaves?`), and one step after the other gives what a whole run leaves: under each name
what the last step left that says anything about it (`get?_after`).
-/

variable {ref : HeaderRef} {maps : HeaderMaps}

/-! ### Changes in place -/

/-- The headers that are put into a map are there. -/
@[simp] theorem HeaderMaps.change_self (f : Headers → Headers) :
    maps.change ref f ref = f (maps ref) := by
  simp [HeaderMaps.change]

/-- Putting back what is there changes nothing. -/
theorem HeaderMaps.change_const_self : maps.change ref (fun _ => maps ref) = maps := by
  funext other
  by_cases h : other = ref <;> simp [HeaderMaps.change, h]

/-- Of two lists of headers that are put into a map, the last one stays. -/
theorem HeaderMaps.change_change (headers headers' : Headers) :
    (maps.change ref fun _ => headers).change ref (fun _ => headers') =
      maps.change ref fun _ => headers' := by
  funext other
  by_cases h : other = ref <;> simp [HeaderMaps.change, h]

/-- A change puts into a map what it makes of the headers there. -/
theorem HeaderMaps.change_eq_const (f : Headers → Headers) :
    maps.change ref f = maps.change ref fun _ => f (maps ref) := by
  funext other
  by_cases h : other = ref <;> simp [HeaderMaps.change, h]

/-! ### Attaching -/

/-- The header value that attaching credentials writes, if it writes one. -/
def headerValue? (source : Option Source) : Option String :=
  match source with
  | none => none
  | some source => if source.isEmpty then none else (encode source).toOption

/-- Attaching credentials keeps the headers where there is nothing to send, writes one value where
    that can be encoded, and fails otherwise, whatever the headers are. -/
theorem attach_cases (source : Option Source) :
    (source.all Source.isEmpty = true ∧ headerValue? source = none ∧
      ∀ headers, attach headers source = .ok headers) ∨
    (∃ value, headerValue? source = some value ∧
      ∀ headers, attach headers source = .ok (headers.insert headerName (.string value))) ∨
    (source.all Source.isEmpty = false ∧ headerValue? source = none ∧
      ∃ e, ∀ headers, attach headers source = .error e) := by
  cases source with
  | none => exact .inl ⟨rfl, rfl, fun _ => rfl⟩
  | some source =>
    cases hempty : source.isEmpty with
    | true => exact .inl ⟨hempty, by simp [headerValue?, hempty], by simp [attach, hempty]⟩
    | false =>
      have hattach : ∀ headers, attach headers (some source) =
          (encode source).map fun value => headers.insert headerName (.string value) := by
        intro headers
        rw [attach, if_neg (by simp [hempty])]
        cases encode source <;> rfl
      cases hencode : encode source with
      | ok value =>
        rw [hencode] at hattach
        exact .inr (.inl ⟨value, by simp [headerValue?, hempty, hencode, Except.toOption], hattach⟩)
      | error e =>
        rw [hencode] at hattach
        exact .inr (.inr ⟨hempty, by simp [headerValue?, hencode, Except.toOption], e, hattach⟩)

/-- Attaching in place does what attaching computes, or nothing when that fails; the reference is
    given back. -/
theorem run_attachTo (ref : HeaderRef) (source : Option Source) (maps : HeaderMaps) :
    (attachTo ref source).run maps = match attach (maps ref) source with
      | .ok headers => (.ok ref, maps.change ref fun _ => headers)
      | .error e => (.error e, maps) := by
  cases source with
  | none =>
    simp only [attach, HeaderMaps.change_const_self]
    rfl
  | some source =>
    simp only [attachTo, attach]
    split
    · simp only [HeaderMaps.change_const_self]
      rfl
    · -- the value is there before anything is written
      cases encode source with
      | error e => rfl
      | ok value => exact congrArg (Except.ok ref, ·) (HeaderMaps.change_eq_const _)

/-! ### Steps -/

namespace HeaderStep

/-- The name that a step sets or deletes. -/
def name? : HeaderStep → Option String
  | .set name _ => some name
  | .delete name => some name
  | _ => none

/-- The credentials that a step attaches. -/
def source? : HeaderStep → Option (Option Source)
  | .attach source => some source
  | .attachEntries entries => some (some (.ofEntries entries))
  | _ => none

/-- What a step leaves under a name, if it says anything about it: a value, or that there is
    none. -/
def leaves? (name : String) (step : HeaderStep) : Option (Option Json) :=
  match step with
  | .set written value => if name = written then some (some value) else none
  | .delete deleted => if name = deleted then some none else none
  | .attach source => attached source
  | .attachEntries entries => attached (some (.ofEntries entries))
where
  /-- What attaching credentials leaves under the name. -/
  attached (source : Option Source) : Option (Option Json) :=
    if name = headerName then (headerValue? source).map fun value => some (.string value) else none

/-- A step that attaches credentials attaches them in place. -/
theorem outcome_of_source? {step : HeaderStep} {source : Option Source}
    (h : step.source? = some source) (ref : HeaderRef) (maps : HeaderMaps) :
    step.outcome ref maps = (attachTo ref source).run maps := by
  cases step with
  | set | delete => cases h
  | attach | attachEntries =>
    cases h
    rfl

end HeaderStep

/-- Attaching leaves under every name what it says, and else what was there. -/
theorem get?_attachTo (source : Option Source) (name : String) :
    (((attachTo ref source).run maps).2 ref).get? name =
      (HeaderStep.leaves?.attached name source).getD ((maps ref).get? name) := by
  rw [run_attachTo, HeaderStep.leaves?.attached]
  rcases attach_cases source with ⟨-, hvalue, h⟩ | ⟨value, hvalue, h⟩ | ⟨-, hvalue, e, h⟩
  · simp [h, hvalue]
  · by_cases hname : name = headerName <;> simp [h, hvalue, hname, Members.get?_insert]
  · simp [h, hvalue]

/-- A step leaves under every name what it says, and else what was there. -/
theorem HeaderStep.get?_outcome {step : HeaderStep} (hname : step.name? ≠ some Members.reservedName)
    (ref : HeaderRef) (maps : HeaderMaps) (name : String) :
    ((step.outcome ref maps).2 ref).get? name =
      (step.leaves? name).getD ((maps ref).get? name) := by
  cases step with
  | set written value =>
    have hwritten : (written == Members.reservedName) = false := by simpa [name?] using hname
    have hset : (outcome ref maps (.set written value)).2 ref =
        (maps ref).insert written value := by
      rw [show (outcome ref maps (.set written value)).2 =
          maps.change ref fun headers => headers.assign written value from rfl,
        HeaderMaps.change_self, Members.assign, hwritten, if_neg Bool.false_ne_true]
    rw [hset, Members.get?_insert, leaves?]
    split <;> rfl
  | delete deleted =>
    have hdelete : (outcome ref maps (.delete deleted)).2 ref = (maps ref).erase deleted := by
      rw [show (outcome ref maps (.delete deleted)).2 =
          maps.change ref fun headers => headers.erase deleted from rfl, HeaderMaps.change_self]
    rw [hdelete, Members.get?_erase, leaves?]
    split <;> rfl
  | attach source => exact get?_attachTo source name
  | attachEntries entries => exact get?_attachTo (some (.ofEntries entries)) name

/-! ### Runs -/

/-- What a run leaves under a name: what the last step left that says anything about it. -/
def lastLeft (name : String) (steps : List HeaderStep) : Option Json :=
  (steps.reverse.findSome? (HeaderStep.leaves? name)).join

/-- One more step decides about a name, or leaves what there was. -/
theorem lastLeft_concat (name : String) (steps : List HeaderStep) (step : HeaderStep) :
    lastLeft name (steps ++ [step]) = (step.leaves? name).getD (lastLeft name steps) := by
  rw [lastLeft, List.reverse_concat, List.findSome?_cons]
  cases step.leaves? name <;> rfl

/-- A run of one more step. -/
theorem HeaderMaps.after_concat (maps : HeaderMaps) (ref : HeaderRef) (steps : List HeaderStep)
    (step : HeaderStep) :
    maps.after ref (steps ++ [step]) = (step.outcome ref (maps.after ref steps)).2 := by
  simp [HeaderMaps.after]

/-- Under every name a run leaves what its last step left that says anything about it. -/
theorem get?_after (hempty : maps ref = []) {steps : List HeaderStep}
    (hnames : ∀ step ∈ steps, step.name? ≠ some Members.reservedName) (name : String) :
    (maps.after ref steps ref).get? name = lastLeft name steps := by
  induction steps using List.reverseRecOn with
  | nil => simp [HeaderMaps.after, hempty, lastLeft, Members.get?]
  | append_singleton steps step ih =>
    have hstep : step.name? ≠ some Members.reservedName := hnames step (by simp)
    have hrest : ∀ s ∈ steps, s.name? ≠ some Members.reservedName :=
      fun s hs => hnames s (by simp [hs])
    rw [HeaderMaps.after_concat, HeaderStep.get?_outcome hstep, ih hrest, lastLeft_concat]

/-- Attaching changes nothing when it fails or has nothing to send; when it does not fail, it gives
    the reference back and would change nothing more. -/
theorem attachTo_frame (ref : HeaderRef) (source : Option Source) (maps : HeaderMaps) :
    let outcome := (attachTo ref source).run maps
    (∀ e, outcome.1 = .error e → outcome.2 = maps) ∧
    (source.all Source.isEmpty = true → outcome = (.ok ref, maps)) ∧
    ∀ returned, outcome.1 = .ok returned →
      returned = ref ∧ (attachTo ref source).run outcome.2 = outcome := by
  simp only [run_attachTo]
  rcases attach_cases source with ⟨-, -, h⟩ | ⟨value, hvalue, h⟩ | ⟨hsome, -, e, h⟩
  · simp [h, HeaderMaps.change_const_self]
  · have hsome : source.all Source.isEmpty ≠ true := by
      intro hempty
      rcases source with - | source
      · cases hvalue
      · simp [headerValue?, show source.isEmpty = true from hempty] at hvalue
    simp [h, hsome, Members.insert_insert, HeaderMaps.change_change]
  · simp [h, hsome]

/-- **Runs on a header map.** After every run on a map that starts empty, there is under each name
    what the last step left that says anything about it: a step that sets or deletes the name, or,
    for the registry header, one that attaches credentials which are there and can be encoded.  A
    step that attaches credentials changes nothing when it fails or has nothing to send, gives the
    reference back when it does not fail, and then changes nothing more when it is repeated. -/
theorem header_map_after_run (ref : HeaderRef) (maps : HeaderMaps) (hempty : maps ref = [])
    (steps : List HeaderStep)
    (hnames : ∀ step ∈ steps, step.name? ≠ some Members.reservedName) :
    let before := maps.after ref steps
    (∀ name, (before ref).get? name = lastLeft name steps) ∧
    ∀ (step : HeaderStep) (source : Option Source), step.source? = some source →
      (∀ e, (step.outcome ref before).1 = .error e → (step.outcome ref before).2 = before) ∧
      (source.all Source.isEmpty = true → step.outcome ref before = (.ok ref, before)) ∧
      ∀ returned, (step.outcome ref before).1 = .ok returned →
        returned = ref ∧
          step.outcome ref (step.outcome ref before).2 = step.outcome ref before := by
  refine ⟨get?_after hempty hnames, fun step source hsource => ?_⟩
  simp only [HeaderStep.outcome_of_source? hsource]
  exact attachTo_frame ref source _

/-- Steps of every kind: the header is set, overwritten by credentials, and then left alone by
    credentials that are refused and by none at all. -/
def overwritingSteps : List HeaderStep :=
  [.set "Accept" (.string "text/plain"), .set headerName (.string "old"),
    .attach (some (.ofJson (.object [("r", .object [("username", .string "u")])]))),
    .attachEntries [("r", some (.bool true))], .delete "Accept", .attach none]

/-- After these steps the header has the value of the credentials that could be encoded. -/
theorem overwritten_header_stays :
    (∀ step ∈ overwritingSteps, step.name? ≠ some Members.reservedName) ∧
      let before := HeaderMaps.after (fun _ => []) 0 overwritingSteps
      (before 0).get? headerName = some (.string "eyJyIjp7InVzZXJuYW1lIjoidSJ9fQ==") ∧
        (before 0).get? "Accept" = none ∧
        (HeaderStep.attachEntries []).outcome 0 before = (.ok 0, before) := by
  have hnames : ∀ step ∈ overwritingSteps, step.name? ≠ some Members.reservedName := by
    simp [overwritingSteps, HeaderStep.name?, headerName, Members.reservedName]
  obtain ⟨hleft, hattach⟩ := header_map_after_run 0 (fun _ => []) rfl overwritingSteps hnames
  refine ⟨hnames, ?_, ?_, (hattach _ _ rfl).2.1 rfl⟩
  · rw [hleft]
    rfl
  · rw [hleft]
    rfl

end ImageBuild.Registry
