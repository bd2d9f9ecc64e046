import ImageBuild.Proofs.Request.TagGrammar

namespace ImageBuild.Request

/-!
# References — which tags are image references

In a reference a port belongs to a registry, so that a path follows it
(`ReferenceParts.IsGrammatical`), where a tag may have a port behind its only component.

* `IsReference.count_colon_le` — behind the last slash a reference has one colon at most.
* `name_and_version_unique` — so a reference has one name and one version.
* `reference_or_bare_port` — the tags are the references and the texts with a port and no path,
  and nothing is both; two colons behind the last slash are those of a port and a version without a
  path.
-/

/-! ### References and their names -/

/-- The parts of a reference: a registry that there may be, with its port, a path and a version. -/
structure ReferenceParts where
  registry : Option (List Char × Option (List Char)) := none
  path : List (List Char)
  version : Option (List Char) := none
deriving DecidableEq, Repr

/-- The text of a registry. -/
def registryText (registry : List Char × Option (List Char)) : List Char :=
  registry.1 ++ behindColon registry.2

/-- The name of a reference: a registry and a path with slashes between them. -/
def ReferenceParts.name (r : ReferenceParts) : List Char :=
  Text.join '/' ((r.registry.map registryText).toList ++ r.path)

/-- The text of a reference: its name and a version behind it. -/
def ReferenceParts.text (r : ReferenceParts) : List Char := r.name ++ behindColon r.version

/-- The parts are in the grammar of references, where there is always a path. -/
structure ReferenceParts.IsGrammatical (r : ReferenceParts) : Prop where
  host : ∀ host port, r.registry = some (host, port) → IsComponent host
  port : ∀ host d, r.registry = some (host, some d) → IsPort d
  path_ne_nil : r.path ≠ []
  path : ∀ component ∈ r.path, IsComponent component
  version : ∀ v, r.version = some v → IsVersion v

/-- A reference to an image. -/
def IsReference (s : List Char) : Prop := ∃ r : ReferenceParts, r.IsGrammatical ∧ r.text = s

/-- A port of more digits than a version may have, behind an only component. -/
def HasLongPort (s : List Char) : Prop :=
  ∃ first d, IsComponent first ∧ IsPort d ∧ 128 < d.length ∧ s = first ++ ':' :: d

/-- A port and a version, behind an only component. -/
def HasPortAndVersion (s : List Char) : Prop :=
  ∃ first d v, IsComponent first ∧ IsPort d ∧ IsVersion v ∧ s = first ++ ':' :: d ++ ':' :: v

/-- What stands behind the last slash, or the whole text if there is none. -/
def afterLastSlash (s : List Char) : List Char := (s.reverse.takeWhile (· ≠ '/')).reverse

/-- Digits are a version too, if they are not too many. -/
theorem IsPort.hasVersionForm {d : List Char} (h : IsPort d) : HasVersionForm d := by
  obtain ⟨c, rest, rfl⟩ := List.exists_cons_of_ne_nil h.1
  obtain ⟨hc, -⟩ := List.forall_mem_cons.1 h.2
  exact ⟨c, rest, rfl, .inr (.inr (.inl hc)), fun e he => h.isNameText e (by simp [he])⟩

/-- Behind the last of the slashes that part a text there is no other slash. -/
theorem afterLastSlash_append {front last : List Char} (hlast : '/' ∉ last)
    (hfront : front = [] ∨ front.getLast? = some '/') : afterLastSlash (front ++ last) = last := by
  have hfree : ∀ c ∈ last.reverse, c ≠ '/' := by
    rintro c hc rfl
    exact hlast (List.mem_reverse.1 hc)
  rw [afterLastSlash, List.reverse_append, List.takeWhile_append_of_pos (by simpa using hfree)]
  rcases hfront with rfl | hfront
  · simp
  · obtain ⟨start, rfl⟩ := List.getLast?_eq_some_iff.1 hfront
    simp

section Reference

variable {r : ReferenceParts} (hr : r.IsGrammatical)

include hr

/-- The name of a reference ends with a component, behind a slash if there is more of it. -/
theorem ReferenceParts.IsGrammatical.exists_name_eq : ∃ front last, r.name = front ++ last ∧
    IsComponent last ∧ (front = [] ∨ front.getLast? = some '/') := by
  obtain ⟨init, last, hpath⟩ := List.eq_nil_or_concat r.path |>.resolve_left hr.path_ne_nil
  obtain ⟨front, hjoin, hfront⟩ :=
    Text.join_concat_eq_append '/' ((r.registry.map registryText).toList ++ init) last
  refine ⟨front, last, ?_, hr.path last (by simp [hpath]), hfront⟩
  rw [ReferenceParts.name, hpath, List.concat_eq_append, ← List.append_assoc, hjoin]

/-- Behind its last slash a reference has a component and its version. -/
theorem ReferenceParts.IsGrammatical.exists_afterLastSlash : ∃ last, IsComponent last ∧
    afterLastSlash r.text = last ++ behindColon r.version := by
  obtain ⟨front, last, hname, hlast, hfront⟩ := hr.exists_name_eq
  have hslash : '/' ∉ last ++ behindColon r.version := by
    rw [List.mem_append, not_or]
    exact ⟨hlast.isNameText.slash_notMem,
      slash_notMem_behindColon fun v hv => (hr.version v hv).1.isNameText⟩
  refine ⟨last, hlast, ?_⟩
  rw [ReferenceParts.text, hname, List.append_assoc, afterLastSlash_append hslash hfront]

/-- Behind its last slash the name of a reference has no colon. -/
theorem ReferenceParts.IsGrammatical.name_ne_append_colon {front v : List Char}
    (hslash : '/' ∉ v) : r.name ≠ front ++ ':' :: v := by
  intro h
  obtain ⟨start, last, hname, hlast, rfl | hstart⟩ := hr.exists_name_eq
  · -- the only component would have the colon
    rw [hname, List.nil_append] at h
    exact hlast.isNameText.colon_notMem (h ▸ by simp)
  · -- the last slash and the colon would be the same
    obtain ⟨start, rfl⟩ := List.getLast?_eq_some_iff.1 hstart
    rw [hname, List.append_assoc, List.singleton_append] at h
    obtain ⟨-, hfalse, -⟩ := Text.append_cons_inj_last h hlast.isNameText.colon_notMem hslash
    exact absurd hfalse (by decide)

end Reference

/-- **Names and versions.** Parts of the same reference have the same name and the same version. -/
theorem name_and_version_unique {r r' : ReferenceParts} (hr : r.IsGrammatical)
    (hr' : r'.IsGrammatical) (h : r.text = r'.text) :
    r.name = r'.name ∧ r.version = r'.version := by
  rw [ReferenceParts.text, ReferenceParts.text] at h
  -- a version on one side only would put its colon into the name on the other
  cases hv : r.version with
  | none =>
    cases hw : r'.version with
    | none => exact ⟨by simpa [hv, hw] using h, rfl⟩
    | some w =>
      have hform : HasVersionForm w := (hr'.version w hw).1
      rw [hv, hw, behindColon_none, List.append_nil, behindColon_some] at h
      exact absurd h (hr.name_ne_append_colon hform.isNameText.slash_notMem)
  | some v =>
    have hvform : HasVersionForm v := (hr.version v hv).1
    cases hw : r'.version with
    | none =>
      rw [hv, hw, behindColon_none, List.append_nil, behindColon_some] at h
      exact absurd h.symm (hr'.name_ne_append_colon hvform.isNameText.slash_notMem)
    | some w =>
      have hwform : HasVersionForm w := (hr'.version w hw).1
      rw [hv, hw, behindColon_some, behindColon_some] at h
      obtain ⟨hname, -, rfl⟩ :=
        Text.append_cons_inj_last h hvform.isNameText.colon_notMem hwform.isNameText.colon_notMem
      exact ⟨hname, rfl⟩

/-- **One colon.** Behind the last slash a reference has the colon of its version, if any. -/
theorem IsReference.count_colon_le {s : List Char} (h : IsReference s) :
    (afterLastSlash s).count ':' ≤ 1 := by
  obtain ⟨r, hr, rfl⟩ := h
  obtain ⟨last, hlast, hafter⟩ := hr.exists_afterLastSlash
  rw [hafter, List.count_append, List.count_eq_zero_of_not_mem hlast.isNameText.colon_notMem]
  cases hv : r.version with
  | none => simp
  | some v =>
    have hfree : v.count ':' = 0 :=
      List.count_eq_zero_of_not_mem (hr.version v hv).1.isNameText.colon_notMem
    simp [hfree]

/-! ### Ports without a path -/

/-- A text without slashes stands behind the last of them as a whole. -/
theorem afterLastSlash_of_slash_notMem {s : List Char} (hs : '/' ∉ s) : afterLastSlash s = s :=
  afterLastSlash_append hs (.inl rfl)

/-- There is no slash in a long port and what stands before it. -/
theorem HasLongPort.slash_notMem {s : List Char} (h : HasLongPort s) : '/' ∉ s := by
  obtain ⟨first, d, hfirst, hd, -, rfl⟩ := h
  have hfree : '/' ∉ first := hfirst.isNameText.slash_notMem
  have hdigits : '/' ∉ d := hd.isNameText.slash_notMem
  simp [hfree, hdigits]

/-- There is no slash in a component, a port and a version. -/
theorem HasPortAndVersion.slash_notMem {s : List Char} (h : HasPortAndVersion s) : '/' ∉ s := by
  obtain ⟨first, d, v, hfirst, hd, hv, rfl⟩ := h
  have hfree : '/' ∉ first := hfirst.isNameText.slash_notMem
  have hdigits : '/' ∉ d := hd.isNameText.slash_notMem
  have hversion : '/' ∉ v := hv.1.isNameText.slash_notMem
  simp [hfree, hdigits, hversion]

/-- A long port has the only colon. -/
theorem HasLongPort.count_colon {s : List Char} (h : HasLongPort s) :
    (afterLastSlash s).count ':' = 1 := by
  rw [afterLastSlash_of_slash_notMem h.slash_notMem]
  obtain ⟨first, d, hfirst, hd, -, rfl⟩ := h
  simp [List.count_append, List.count_eq_zero_of_not_mem hfirst.isNameText.colon_notMem,
    List.count_eq_zero_of_not_mem hd.isNameText.colon_notMem]

/-- A port and a version without a path have two colons behind the last slash. -/
theorem HasPortAndVersion.count_colon {s : List Char} (h : HasPortAndVersion s) :
    (afterLastSlash s).count ':' = 2 := by
  rw [afterLastSlash_of_slash_notMem h.slash_notMem]
  obtain ⟨first, d, v, hfirst, hd, hv, rfl⟩ := h
  simp [List.count_append, List.count_eq_zero_of_not_mem hfirst.isNameText.colon_notMem,
    List.count_eq_zero_of_not_mem hd.isNameText.colon_notMem,
    List.count_eq_zero_of_not_mem hv.1.isNameText.colon_notMem]

/-- A port that is too long for a version makes no reference. -/
theorem HasLongPort.not_isReference {s : List Char} (h : HasLongPort s) : ¬ IsReference s := by
  rintro ⟨r, hr, rfl⟩
  obtain ⟨first, d, hfirst, hd, hlength, htext⟩ := h
  rw [ReferenceParts.text] at htext
  cases hv : r.version with
  | none =>
    rw [hv, behindColon_none, List.append_nil] at htext
    exact hr.name_ne_append_colon hd.isNameText.slash_notMem htext
  | some v =>
    have hversion : IsVersion v := hr.version v hv
    rw [hv, behindColon_some] at htext
    obtain ⟨-, -, rfl⟩ :=
      Text.append_cons_inj_last htext hversion.1.isNameText.colon_notMem hd.isNameText.colon_notMem
    exact absurd hversion.2 (by omega)

/-- A port and a version without a path make no reference. -/
theorem HasPortAndVersion.not_isReference {s : List Char} (h : HasPortAndVersion s) :
    ¬ IsReference s := by
  intro hs
  have htwo : (afterLastSlash s).count ':' = 2 := h.count_colon
  exact absurd hs.count_colon_le (by omega)

/-! ### References among the tags -/

/-- References are the texts of tags whose port has further components behind it. -/
theorem isReference_iff {s : List Char} : IsReference s ↔
    ∃ p : TagParts, p.IsGrammatical ∧ (p.rest = [] → p.port = none) ∧ p.text = s := by
  constructor
  · rintro ⟨⟨registry, path, version⟩, hr, rfl⟩
    cases registry with
    | none =>
      -- the path is all components
      obtain ⟨first, rest, rfl⟩ := List.exists_cons_of_ne_nil hr.path_ne_nil
      obtain ⟨hfirst, hrest⟩ := List.forall_mem_cons.1 hr.path
      refine ⟨{ first, rest, version }, ⟨hfirst, by simp, hrest, hr.version⟩, fun _ => rfl, ?_⟩
      simp [TagParts.text, ReferenceParts.text, ReferenceParts.name, Text.join_cons]
    | some registry =>
      -- the registry is the first component
      obtain ⟨host, port⟩ := registry
      have hport : ∀ d, port = some d → IsPort d := by
        rintro d rfl
        exact hr.port host d rfl
      refine ⟨{ first := host, port, rest := path, version },
        ⟨hr.host host port rfl, hport, hr.path, hr.version⟩, ?_, ?_⟩
      · exact fun hnil => absurd hnil hr.path_ne_nil
      · simp [TagParts.text, ReferenceParts.text, ReferenceParts.name, registryText,
          Text.join_cons]
  · rintro ⟨⟨first, port, rest, version⟩, hp, hport, rfl⟩
    by_cases hrest : rest = []
    · subst hrest
      obtain rfl : port = none := hport rfl
      refine ⟨{ path := [first], version }, ⟨by simp, by simp, by simp, ?_, hp.version⟩, ?_⟩
      · simpa using hp.first
      · simp [TagParts.text, ReferenceParts.text, ReferenceParts.name, Text.join_cons]
    · refine ⟨{ registry := some (first, port), path := rest, version },
        ⟨?_, ?_, hrest, hp.rest, hp.version⟩, ?_⟩
      · rintro host d ⟨⟩
        exact hp.first
      · rintro host d ⟨⟩
        exact hp.port d rfl
      · simp [TagParts.text, ReferenceParts.text, ReferenceParts.name, registryText,
          Text.join_cons]

/-- A tag is a reference, or it has a port behind its only component that is no version, because it
    is too long or because a version follows. -/
theorem isTag_iff_isReference_or {s : List Char} :
    isTag s = true ↔ IsReference s ∨ HasLongPort s ∨ HasPortAndVersion s := by
  rw [isTag_iff]
  constructor
  · rintro ⟨⟨first, port, rest, version⟩, hp, rfl⟩
    -- a port without a path has a version behind it, or is one itself, or is too long for that
    by_cases hport : rest = [] → port = none
    · exact .inl (isReference_iff.2 ⟨_, hp, hport, rfl⟩)
    · obtain ⟨rfl, hsome⟩ := Classical.not_imp.1 hport
      obtain ⟨d, rfl⟩ := Option.ne_none_iff_exists'.1 hsome
      have hd : IsPort d := hp.port d rfl
      cases version with
      | some v =>
        exact .inr (.inr ⟨first, d, v, hp.first, hd, hp.version v rfl, by simp [TagParts.text]⟩)
      | none =>
        by_cases hlength : d.length ≤ 128
        · refine .inl ⟨{ path := [first], version := some d },
            ⟨by simp, by simp, by simp, ?_, ?_⟩, ?_⟩
          · simpa using hp.first
          · rintro v ⟨⟩
            exact ⟨hd.hasVersionForm, hlength⟩
          · simp [TagParts.text, ReferenceParts.text, ReferenceParts.name, Text.join]
        · exact .inr (.inl ⟨first, d, hp.first, hd, by omega, by simp [TagParts.text]⟩)
  · rintro (hs | ⟨first, d, hfirst, hd, -, rfl⟩ | ⟨first, d, v, hfirst, hd, hv, rfl⟩)
    · obtain ⟨p, hp, -, htext⟩ := isReference_iff.1 hs
      exact ⟨p, hp, htext⟩
    · exact ⟨{ first, port := some d }, ⟨hfirst, by simpa using hd, by simp, by simp⟩,
        by simp [TagParts.text]⟩
    · exact ⟨{ first, port := some d, version := some v },
        ⟨hfirst, by simpa using hd, by simp, by simpa using hv⟩, by simp [TagParts.text]⟩

/-- **Ports and registries.** A string is a tag exactly when it is a reference or has a port behind
    an only component, followed by a version or too long to be one.  A reference is neither of the
    two, has one name and one version, and one colon at most behind its last slash; so a tag has
    more colons there exactly when it has a port and a version without a path. -/
theorem reference_or_bare_port (tag : String) :
    (isValidTag tag = true ↔
      IsReference tag.toList ∨ HasLongPort tag.toList ∨ HasPortAndVersion tag.toList) ∧
    (IsReference tag.toList → ¬ HasLongPort tag.toList ∧ ¬ HasPortAndVersion tag.toList ∧
      (∀ r r' : ReferenceParts, r.IsGrammatical → r'.IsGrammatical → r.text = tag.toList →
        r'.text = tag.toList → r.name = r'.name ∧ r.version = r'.version)) ∧
    (isValidTag tag = true →
      ((afterLastSlash tag.toList).count ':' ≤ 1 ↔ ¬ HasPortAndVersion tag.toList)) ∧
    (HasLongPort tag.toList ∨ HasPortAndVersion tag.toList → '/' ∉ tag.toList) := by
  refine ⟨isTag_iff_isReference_or, ?_, ?_, ?_⟩
  · intro hs
    refine ⟨fun h => h.not_isReference hs, fun h => h.not_isReference hs, ?_⟩
    intro r r' hr hr' htext htext'
    exact name_and_version_unique hr hr' (htext.trans htext'.symm)
  · intro h
    constructor
    · intro hcount hs
      have htwo : (afterLastSlash tag.toList).count ':' = 2 := hs.count_colon
      omega
    · intro hnot
      rcases isTag_iff_isReference_or.1 h with hs | hs | hs
      · exact hs.count_colon_le
      · exact Nat.le_of_eq hs.count_colon
      · exact absurd hs hnot
  · rintro (hs | hs)
    · exact hs.slash_notMem
    · exact hs.slash_notMem

/-- A registry with a port, a path and a version. -/
def serverReference : ReferenceParts :=
  { registry := some (['h', 'o', 's', 't'], some ['8', '0']), path := [['a', 'p', 'p']],
    version := some ['v', '2'] }

/-- The port of this tag belongs to its registry: however the tag is parted, its name and its
    version are the same, and behind its last slash there is one colon. -/
theorem server_reference_has_one_name :
    isValidTag "host:80/app:v2" = true ∧ IsReference "host:80/app:v2".toList ∧
    (afterLastSlash "host:80/app:v2".toList).count ':' ≤ 1 ∧
    ¬ HasPortAndVersion "host:80/app:v2".toList ∧
    (∀ r : ReferenceParts, r.IsGrammatical → r.text = "host:80/app:v2".toList →
      r.name = "host:80/app".toList ∧ r.version = some ['v', '2']) ∧
    HasPortAndVersion "app:80:1".toList ∧ '/' ∉ "app:80:1".toList := by
  have hparts : serverReference.IsGrammatical := by
    refine ⟨?_, ?_, by simp [serverReference], ?_, ?_⟩
    · rintro host port ⟨⟩
      exact isComponent_iff.1 (by decide)
    · rintro host d ⟨⟩
      exact isPort_iff.1 (by decide)
    · have hpath : IsComponent ['a', 'p', 'p'] := isComponent_iff.1 (by decide)
      simpa [serverReference] using hpath
    · rintro v ⟨⟩
      exact isVersion_iff.1 (by decide)
  have htext : serverReference.text = "host:80/app:v2".toList := by decide
  have href : IsReference "host:80/app:v2".toList := ⟨serverReference, hparts, htext⟩
  have hbare : HasPortAndVersion "app:80:1".toList :=
    ⟨['a', 'p', 'p'], ['8', '0'], ['1'], isComponent_iff.1 (by decide), isPort_iff.1 (by decide),
      isVersion_iff.1 (by decide), by decide⟩
  obtain ⟨hvalid, hunique, hcount, -⟩ := reference_or_bare_port "host:80/app:v2"
  have htag : isValidTag "host:80/app:v2" = true := hvalid.2 (.inl href)
  obtain ⟨-, hnot, hone⟩ := hunique href
  refine ⟨htag, href, (hcount htag).2 hnot, hnot, ?_, hbare, ?_⟩
  · intro r hr hr'
    exact hone r serverReference hr hparts hr' htext
  · exact (reference_or_bare_port "app:80:1").2.2.2 (.inr hbare)

/-- A port behind an only component, with a version behind it: a tag with two colons behind its last
    slash, which is no reference. -/
theorem bare_port_with_version :
    isValidTag "app:80:1" = true ∧ (afterLastSlash "app:80:1".toList).count ':' = 2 ∧
    ¬ IsReference "app:80:1".toList := by
  have hcount : (afterLastSlash "app:80:1".toList).count ':' = 2 := by decide
  refine ⟨by decide, hcount, fun h => ?_⟩
  have hle : (afterLastSlash "app:80:1".toList).count ':' ≤ 1 := h.count_colon_le
  omega

end ImageBuild.Request
