import Mathlib.Data.List.Forall2
import ImageBuild.Proofs.Log.Idempotence

namespace ImageBuild.Report

/-!
# Reported events — what the filter changes, and what it leaves

An event keeps its names and their order, and so does everything in it; what the values become is
said name by name, from a header or the message of a breadcrumb up to the whole event.

* `alike_map` — values that change name by name.
* `filterEvent_object` — the two changes of an event are made to different members.
* `filterMessage_idem`, `change_idem` — a change that is made again makes no difference, as masked
  messages are settled.
* `filterEvent_alike` — all of it, for every event.
-/

/-! ### What becomes of values -/

/-- Members keep their names and their order, and the values under each name are related. -/
def Alike (R : String → Json → Json → Prop) : Members Json → Members Json → Prop :=
  List.Forall₂ fun before after => after.1 = before.1 ∧ R before.1 before.2 after.2

/-- An object becomes one with the same names in the same order. -/
def OnObjects (R : String → Json → Json → Prop) (before after : Json) : Prop :=
  ∀ members, before = .object members → ∃ members', after = .object members' ∧ Alike R members members'

/-- An array becomes one of the same length, item by item. -/
def OnArrays (R : Json → Json → Prop) (before after : Json) : Prop :=
  ∀ items, before = .array items → ∃ items', after = .array items' ∧ List.Forall₂ R items items'

/-- A header keeps its value, unless its name in small letters is one of those that announce
    credentials. -/
def HeaderMember (name : String) (before after : Json) : Prop :=
  after =
    if String.ofList (Text.lower name.toList) ∈
        ["x-registry-config", "x-registry-auth", "authorization"] then .string "[Filtered]"
    else before

/-- Nothing in a request changes but its headers. -/
def RequestMember (name : String) (before after : Json) : Prop :=
  if name = "headers" then OnObjects HeaderMember before after else after = before

/-- Nothing in a breadcrumb changes but its message, which is masked. -/
def BreadcrumbMember (name : String) (before after : Json) : Prop :=
  if name = "message" then ∀ message, before = .string message → after = .string (Log.mask message)
  else after = before

/-- Nothing in an event changes but its request and its breadcrumbs. -/
def EventMember (name : String) (before after : Json) : Prop :=
  if name = "request" then OnObjects RequestMember before after
  else if name = "breadcrumbs" then OnArrays (OnObjects BreadcrumbMember) before after
  else after = before

/-! ### Changes -/

/-- Values that change name by name become what they become. -/
theorem alike_map {R : String → Json → Json → Prop} {f : String → Json → Json}
    (h : ∀ name value, R name value (f name value)) (members : Members Json) :
    Alike R members (members.map fun member => (member.1, f member.1 member.2)) := by
  rw [Alike, List.forall₂_map_right_iff, List.forall₂_same]
  exact fun member _ => ⟨rfl, h member.1 member.2⟩

/-- An object with one value changed. -/
theorem onObjects_change {R : String → Json → Json → Prop} {name : String} {f : Json → Json}
    (hchanged : ∀ value, R name value (f value))
    (hkept : ∀ other value, other ≠ name → R other value value) (value : Json) :
    OnObjects R value (change name f value) := by
  rintro members rfl
  refine ⟨_, rfl, alike_map (f := fun n value => if n = name then f value else value) ?_ members⟩
  intro n value
  by_cases hname : n = name
  · subst hname
    rw [if_pos rfl]
    exact hchanged value
  · rw [if_neg hname]
    exact hkept n value hname

/-- A header carries credentials when its name in small letters is one of three. -/
theorem isSensitive_iff {name : String} : isSensitive name = true ↔
    String.ofList (Text.lower name.toList) ∈
      ["x-registry-config", "x-registry-auth", "authorization"] :=
  List.contains_iff_mem

/-- Headers lose the values that carry credentials. -/
theorem onObjects_filterHeaders (headers : Json) :
    OnObjects HeaderMember headers (filterHeaders headers) := by
  rintro members rfl
  refine ⟨_, rfl, alike_map
    (f := fun name value => if isSensitive name then filtered else value) ?_ members⟩
  intro name value
  simp only [HeaderMember, isSensitive_iff]
  rfl

/-- Breadcrumbs have their messages masked. -/
theorem onObjects_filterBreadcrumb (breadcrumb : Json) :
    OnObjects BreadcrumbMember breadcrumb (filterBreadcrumb breadcrumb) := by
  rintro members rfl
  refine onObjects_change ?_ ?_ (.object members) members rfl
  · intro value
    rw [BreadcrumbMember, if_pos rfl]
    rintro message rfl
    rfl
  · intro other value hother
    rw [BreadcrumbMember, if_neg hother]

/-- A breadcrumb for each breadcrumb. -/
theorem onArrays_filterBreadcrumbs (breadcrumbs : Json) :
    OnArrays (OnObjects BreadcrumbMember) breadcrumbs (filterBreadcrumbs breadcrumbs) := by
  rintro items rfl
  refine ⟨_, rfl, ?_⟩
  rw [List.forall₂_map_right_iff, List.forall₂_same]
  exact fun item _ => onObjects_filterBreadcrumb item

/-- A request changes in its headers. -/
theorem onObjects_filterRequest (request : Json) :
    OnObjects RequestMember request (change "headers" filterHeaders request) := by
  refine onObjects_change ?_ ?_ request
  · intro value
    rw [RequestMember, if_pos rfl]
    exact onObjects_filterHeaders value
  · intro other value hother
    rw [RequestMember, if_neg hother]

/-! ### Changes made again -/

/-- A change that makes no difference any more makes none inside an object either. -/
theorem change_idem {f : Json → Json} (h : ∀ value, f (f value) = f value) (name : String)
    (value : Json) : change name f (change name f value) = change name f value := by
  cases value with
  | object members =>
    simp only [change, List.map_map]
    congr 1
    refine List.map_congr_left fun member _ => ?_
    by_cases hname : member.1 = name <;> simp [hname, h]
  | _ => rfl

/-- Filtered headers have nothing left to filter. -/
theorem filterHeaders_idem (headers : Json) :
    filterHeaders (filterHeaders headers) = filterHeaders headers := by
  cases headers with
  | object members =>
    simp only [filterHeaders, List.map_map]
    congr 1
    refine List.map_congr_left fun member _ => ?_
    by_cases hname : isSensitive member.1 = true <;> simp [hname]
  | _ => rfl

/-- Masked messages are settled, so that they stay. -/
theorem filterMessage_idem (message : Json) :
    filterMessage (filterMessage message) = filterMessage message := by
  cases message with
  | string text =>
    have hsettled : Log.Settled (Log.mask text).toList := by
      rw [Log.mask, String.toList_ofList]
      exact Log.settled_maskChars text.toList
    show Json.string (Log.mask (Log.mask text)) = _
    rw [Log.mask_of_settled hsettled]
    rfl
  | _ => rfl

/-- Breadcrumbs with masked messages stay. -/
theorem filterBreadcrumbs_idem (breadcrumbs : Json) :
    filterBreadcrumbs (filterBreadcrumbs breadcrumbs) = filterBreadcrumbs breadcrumbs := by
  cases breadcrumbs with
  | array items =>
    simp only [filterBreadcrumbs, List.map_map]
    congr 1
    refine List.map_congr_left fun item _ => ?_
    -- what a breadcrumb has become is an object, whatever it was
    exact change_idem filterMessage_idem "message" (.object item.spread)
  | _ => rfl

/-! ### Events -/

/-- What becomes of a member of an event. -/
def filterMember (name : String) (value : Json) : Json :=
  if name = "request" then change "headers" filterHeaders value
  else if name = "breadcrumbs" then filterBreadcrumbs value
  else value

/-- The request and the breadcrumbs of an event are filtered independently. -/
theorem filterEvent_object (members : Members Json) :
    filterEvent (.object members) =
      .object (members.map fun member => (member.1, filterMember member.1 member.2)) := by
  rw [filterEvent, change, change, List.map_map]
  congr 1
  refine List.map_congr_left fun member _ => ?_
  by_cases hrequest : member.1 = "request"
  · simp [filterMember, hrequest]
  · simp [filterMember, hrequest]

/-- A member of an event that has been filtered stays. -/
theorem filterMember_idem (name : String) (value : Json) :
    filterMember name (filterMember name value) = filterMember name value := by
  unfold filterMember
  by_cases hrequest : name = "request"
  · simp only [if_pos hrequest]
    exact change_idem filterHeaders_idem "headers" value
  · simp only [if_neg hrequest]
    by_cases hbreadcrumbs : name = "breadcrumbs"
    · simp only [if_pos hbreadcrumbs]
      exact filterBreadcrumbs_idem value
    · simp only [if_neg hbreadcrumbs]

/-- **The filter.** Of an event, the headers that announce credentials lose their values and the
    messages of breadcrumbs are masked; names, their order and everything else stay.  An event that has
    been filtered has nothing left to filter. -/
theorem filterEvent_alike (event : Json) :
    OnObjects EventMember event (filterEvent event) ∧
      filterEvent (filterEvent event) = filterEvent event := by
  constructor
  · rintro members rfl
    refine ⟨_, filterEvent_object members, alike_map (fun name value => ?_) members⟩
    unfold EventMember filterMember
    split
    · exact onObjects_filterRequest value
    split
    · exact onArrays_filterBreadcrumbs value
    · rfl
  · cases event with
    | object members =>
      rw [filterEvent_object, filterEvent_object, List.map_map]
      congr 1
      refine List.map_congr_left fun member _ => ?_
      simp only [Function.comp_apply, filterMember_idem]
    | _ => rfl

example : filterEvent (.object
    [("request", .object [("headers", .object
        [("X-Registry-Auth", .string "eyJhIjp7fX0="), ("Accept", .string "*/*")])]),
      ("breadcrumbs", .array [.object
        [("message", .string "password=secret123"), ("category", .string "console")]]),
      ("level", .string "error")]) =
    .object
      [("request", .object [("headers", .object
          [("X-Registry-Auth", .string "[Filtered]"), ("Accept", .string "*/*")])]),
        ("breadcrumbs", .array [.object
          [("message", .string "password=****"), ("category", .string "console")]]),
        ("level", .string "error")] := by
  rfl

end ImageBuild.Report
