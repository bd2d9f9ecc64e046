import ImageBuild.Proofs.Request.Component
import ImageBuild.Proofs.Text.Split

namespace ImageBuild.Request

/-!
# The grammar of tags — what a tag is made of

The grammar is stated by the texts that its parts put together (`TagParts.text`), where the reader
of tags cuts a text at slashes and colons.

* `isHead_iff`, `isTail_iff`, `isWhole_iff` — the pieces between slashes that the reader accepts.
* `isTag_iff` — it accepts the texts of parts that are in the grammar, and no others.
* `tag_grammar` — with what follows for the characters, the components and the length of the version
  of every tag.
-/

/-- The parts of a tag. -/
structure TagParts where
  first : List Char
  port : Option (List Char) := none
  rest : List (List Char) := []
  version : Option (List Char) := none
deriving DecidableEq, Repr

/-- A text that there may be, behind a colon. -/
def behindColon (s : Option (List Char)) : List Char := s.elim [] (':' :: ·)

@[simp] theorem behindColon_none : behindColon none = [] := rfl

@[simp] theorem behindColon_some (s : List Char) : behindColon (some s) = ':' :: s := rfl

/-- The text of a tag: its components with slashes between them, a port behind the first one and a
    version behind them all. -/
def TagParts.text (p : TagParts) : List Char :=
  p.first ++ behindColon p.port ++ p.rest.flatMap ('/' :: ·) ++ behindColon p.version

/-- The parts are in the grammar. -/
structure TagParts.IsGrammatical (p : TagParts) : Prop where
  first : IsComponent p.first
  port : ∀ d, p.port = some d → IsPort d
  rest : ∀ component ∈ p.rest, IsComponent component
  version : ∀ v, p.version = some v → IsVersion v

/-! ### Pieces -/

/-- Texts that there may be, behind colons, are pieces between colons. -/
theorem append_behindColon (s : List Char) (t u : Option (List Char)) :
    s ++ behindColon t ++ behindColon u = Text.join ':' (s :: (t.toList ++ u.toList)) := by
  cases t <;> cases u <;> simp [Text.join]

/-- Colons cut a text into these pieces when these are made of other characters. -/
theorem split_append_behindColon {s : List Char} (hs : IsNameText s) {t u : Option (List Char)}
    (ht : ∀ v, t = some v → IsNameText v) (hu : ∀ v, u = some v → IsNameText v) :
    Text.split (· == ':') (s ++ behindColon t ++ behindColon u) = s :: (t.toList ++ u.toList) := by
  rw [append_behindColon, Text.split_eq_iff]
  refine ⟨by simp, List.forall_mem_cons.2 ⟨hs.colon_notMem, fun piece hpiece => ?_⟩, rfl⟩
  rcases List.mem_append.1 hpiece with hpiece | hpiece
  · exact (ht piece (Option.mem_toList.1 hpiece)).colon_notMem
  · exact (hu piece (Option.mem_toList.1 hpiece)).colon_notMem

/-- A reader that accepts components, and components with a text of another kind behind a colon,
    reads these and no other ones. -/
theorem component_behindColon_iff {reads : List Char → Bool} {kind : List Char → Prop}
    (hreads : ∀ t, reads t = true ↔ kind t) (hname : ∀ t, kind t → IsNameText t) {s : List Char} :
    (match Text.split (· == ':') s with
      | [name] => isComponent name
      | [name, t] => isComponent name && reads t
      | _ => false) = true ↔
    ∃ name t, IsComponent name ∧ (∀ u, t = some u → kind u) ∧ s = name ++ behindColon t := by
  constructor
  · intro h
    split at h
    · rename_i name hsplit
      obtain ⟨-, -, rfl⟩ := Text.split_eq_iff.1 hsplit
      exact ⟨name, none, isComponent_iff.1 h, by simp, by simp [Text.join]⟩
    · rename_i name t hsplit
      obtain ⟨-, -, rfl⟩ := Text.split_eq_iff.1 hsplit
      rw [Bool.and_eq_true, isComponent_iff, hreads] at h
      exact ⟨name, some t, h.1, by simpa using h.2, rfl⟩
    · cases h
  · rintro ⟨name, t, hcomponent, ht, rfl⟩
    have hsplit : Text.split (· == ':') (name ++ behindColon t) = name :: t.toList := by
      simpa using split_append_behindColon hcomponent.isNameText
        (fun u hu => hname u (ht u hu)) (show ∀ v, none = some v → IsNameText v by simp)
    rw [hsplit]
    cases t with
    | none => exact isComponent_iff.2 hcomponent
    | some u =>
      exact Bool.and_eq_true_iff.2 ⟨isComponent_iff.2 hcomponent, (hreads u).2 (ht u rfl)⟩

/-- The reader of the first component accepts a component with or without a port. -/
theorem isHead_iff {s : List Char} : isHead s = true ↔ ∃ first port, IsComponent first ∧
    (∀ d, port = some d → IsPort d) ∧ s = first ++ behindColon port :=
  component_behindColon_iff (fun _ => isPort_iff) fun _ h => h.isNameText

/-- The reader of the last component accepts a component with or without a version. -/
theorem isTail_iff {s : List Char} : isTail s = true ↔ ∃ last version, IsComponent last ∧
    (∀ v, version = some v → IsVersion v) ∧ s = last ++ behindColon version :=
  component_behindColon_iff (fun _ => isVersion_iff) fun _ h => h.1.isNameText

/-- The reader of an only component accepts it with or without a port and a version. -/
theorem isWhole_iff {s : List Char} : isWhole s = true ↔ ∃ first port version, IsComponent first ∧
    (∀ d, port = some d → IsPort d) ∧ (∀ v, version = some v → IsVersion v) ∧
      s = first ++ behindColon port ++ behindColon version := by
  constructor
  · intro h
    unfold isWhole at h
    split at h
    · rename_i name hsplit
      obtain ⟨-, -, rfl⟩ := Text.split_eq_iff.1 hsplit
      exact ⟨name, none, none, isComponent_iff.1 h, by simp, by simp,
        by simp [Text.join]⟩
    · -- digits behind the only colon may be a port or a version
      rename_i name t hsplit
      obtain ⟨-, -, rfl⟩ := Text.split_eq_iff.1 hsplit
      rw [Bool.and_eq_true, Bool.or_eq_true, isComponent_iff, isPort_iff, isVersion_iff] at h
      rcases h with ⟨hname, ht | ht⟩
      · exact ⟨name, some t, none, hname, by simpa using ht, by simp,
          by simp [Text.join]⟩
      · exact ⟨name, none, some t, hname, by simp, by simpa using ht,
          by simp [Text.join]⟩
    · rename_i name port version hsplit
      obtain ⟨-, -, rfl⟩ := Text.split_eq_iff.1 hsplit
      rw [Bool.and_eq_true, Bool.and_eq_true, isComponent_iff, isPort_iff, isVersion_iff] at h
      obtain ⟨⟨hname, hport⟩, hversion⟩ := h
      exact ⟨name, some port, some version, hname, by simpa using hport, by simpa using hversion,
        by simp [Text.join]⟩
    · cases h
  · rintro ⟨first, port, version, hfirst, hport, hversion, rfl⟩
    rw [isWhole, split_append_behindColon hfirst.isNameText (fun d hd => (hport d hd).isNameText)
      fun v hv => (hversion v hv).1.isNameText]
    cases port with
    | none =>
      cases version with
      | none => simp [isComponent_iff, hfirst]
      | some v => simp [isComponent_iff, isVersion_iff, hfirst, hversion]
    | some d =>
      cases version with
      | none => simp [isComponent_iff, isPort_iff, hfirst, hport]
      | some v => simp [isComponent_iff, isPort_iff, isVersion_iff, hfirst, hport, hversion]

/-- The pieces after the first slash are components, and the last of them may have a version. -/
theorem isRest_concat (init : List (List Char)) (last : List Char) :
    isRest (init ++ [last]) = (init.all isComponent && isTail last) := by
  induction init with
  | nil => rfl
  | cons piece init ih =>
    have hstep : isRest (piece :: (init ++ [last])) =
        (isComponent piece && isRest (init ++ [last])) := by
      cases init <;> rfl
    rw [List.cons_append, hstep, ih, List.all_cons, Bool.and_assoc]

/-- With a slash, the piece before it is read as the first one, and the others as the rest. -/
theorem isTag_of_split {s piece : List Char} {pieces : List (List Char)} (hne : pieces ≠ [])
    (hsplit : Text.split (· == '/') s = piece :: pieces) :
    isTag s = (isHead piece && isRest pieces) := by
  obtain ⟨next, others, rfl⟩ := List.exists_cons_of_ne_nil hne
  rw [isTag, hsplit]

/-! ### Tags -/

/-- There is no slash in a text that there may be, behind a colon. -/
theorem slash_notMem_behindColon {t : Option (List Char)}
    (ht : ∀ u, t = some u → IsNameText u) : '/' ∉ behindColon t := by
  cases t with
  | none => simp
  | some u =>
    have hu : '/' ∉ u := (ht u rfl).slash_notMem
    simpa using hu

section Grammatical

variable {p : TagParts} (hp : p.IsGrammatical)

include hp

/-- There is no slash in the text in front of the further components. -/
theorem TagParts.IsGrammatical.slash_notMem_front : '/' ∉ p.first ++ behindColon p.port := by
  have hfirst : '/' ∉ p.first := hp.first.isNameText.slash_notMem
  have hport : '/' ∉ behindColon p.port :=
    slash_notMem_behindColon fun d hd => (hp.port d hd).isNameText
  simp [hfirst, hport]

/-- There is no slash in the version. -/
theorem TagParts.IsGrammatical.slash_notMem_version : '/' ∉ behindColon p.version :=
  slash_notMem_behindColon fun v hv => (hp.version v hv).1.isNameText

/-- Without further components, no slash cuts the text of a tag. -/
theorem TagParts.IsGrammatical.split_text_of_nil (hrest : p.rest = []) :
    Text.split (· == '/') p.text = [p.first ++ behindColon p.port ++ behindColon p.version] := by
  have hslash : '/' ∉ p.first ++ behindColon p.port ++ behindColon p.version := by
    rw [List.mem_append, not_or]
    exact ⟨hp.slash_notMem_front, hp.slash_notMem_version⟩
  rw [Text.split_eq_iff]
  exact ⟨by simp, by simpa using hslash, by simp [Text.join, TagParts.text, hrest]⟩

/-- With further components, slashes cut the text of a tag into its components, where the first one
    keeps the port and the last one the version. -/
theorem TagParts.IsGrammatical.split_text_of_concat {init : List (List Char)} {last : List Char}
    (hrest : p.rest = init ++ [last]) : Text.split (· == '/') p.text =
      (p.first ++ behindColon p.port) :: (init ++ [last ++ behindColon p.version]) := by
  have hcomponent : ∀ s ∈ init ++ [last], '/' ∉ s :=
    fun s hs => (hp.rest s (hrest ▸ hs)).isNameText.slash_notMem
  rw [Text.split_eq_iff]
  refine ⟨by simp, ?_, ?_⟩
  · intro piece hpiece
    simp only [List.mem_cons, List.mem_append, List.not_mem_nil, or_false] at hpiece
    rcases hpiece with rfl | hpiece | rfl
    · exact hp.slash_notMem_front
    · exact hcomponent piece (by simp [hpiece])
    · rw [List.mem_append, not_or]
      exact ⟨hcomponent last (by simp), hp.slash_notMem_version⟩
  · rw [Text.join_cons, TagParts.text, hrest]
    simp

end Grammatical

/-- **Tags.** The reader of tags accepts the texts of parts that are in the grammar, and no other
    texts. -/
theorem isTag_iff {s : List Char} :
    isTag s = true ↔ ∃ p : TagParts, p.IsGrammatical ∧ p.text = s := by
  constructor
  · intro h
    obtain ⟨piece, pieces, hsplit⟩ := Text.exists_split_eq_cons (· == '/') s
    obtain ⟨-, -, hjoin⟩ := Text.split_eq_iff.1 hsplit
    rw [Text.join_cons] at hjoin
    -- the piece behind the last slash is the one that may have a version
    cases pieces using List.reverseRecOn with
    | nil =>
      rw [isTag, hsplit] at h
      obtain ⟨first, port, version, hfirst, hport, hversion, rfl⟩ := isWhole_iff.1 h
      refine ⟨{ first, port, version }, ⟨hfirst, hport, by simp, hversion⟩, ?_⟩
      simpa [TagParts.text] using hjoin
    | append_singleton init ending =>
      rw [isTag_of_split (by simp) hsplit, isRest_concat, Bool.and_eq_true, Bool.and_eq_true,
        List.all_eq_true] at h
      obtain ⟨hhead, hinit, htail⟩ := h
      obtain ⟨first, port, hfirst, hport, rfl⟩ := isHead_iff.1 hhead
      obtain ⟨last, version, hlast, hversion, rfl⟩ := isTail_iff.1 htail
      refine ⟨{ first, port, rest := init ++ [last], version }, ⟨hfirst, hport, ?_, hversion⟩, ?_⟩
      · rw [List.forall_mem_append, List.forall_mem_singleton]
        exact ⟨fun component hc => isComponent_iff.1 (hinit component hc), hlast⟩
      · rw [← hjoin, TagParts.text]
        simp
  · rintro ⟨p, hp, rfl⟩
    cases hrest : p.rest using List.reverseRecOn with
    | nil =>
      rw [isTag, hp.split_text_of_nil hrest]
      exact isWhole_iff.2 ⟨p.first, p.port, p.version, hp.first, hp.port, hp.version, rfl⟩
    | append_singleton init last =>
      have hall := hp.rest
      rw [hrest, List.forall_mem_append, List.forall_mem_singleton] at hall
      rw [isTag_of_split (by simp) (hp.split_text_of_concat hrest), isRest_concat,
        Bool.and_eq_true, Bool.and_eq_true, List.all_eq_true, isHead_iff, isTail_iff]
      exact ⟨⟨p.first, p.port, hp.first, hp.port, rfl⟩,
        fun component hc => isComponent_iff.2 (hall.1 component hc),
        ⟨last, p.version, hall.2, hp.version, rfl⟩⟩

/-! ### What follows for tags -/

section Grammatical

variable {p : TagParts} (hp : p.IsGrammatical)

include hp

/-- The characters of a tag are those of names, slashes and colons. -/
theorem TagParts.IsGrammatical.mem_text {c : Char} (hc : c ∈ p.text) :
    IsNameChar c ∨ c = '/' ∨ c = ':' := by
  have hbehind : ∀ t : Option (List Char), (∀ u, t = some u → IsNameText u) →
      c ∈ behindColon t → IsNameChar c ∨ c = '/' ∨ c = ':' := by
    intro t ht hmem
    cases t with
    | none => cases hmem
    | some u =>
      rcases List.mem_cons.1 hmem with rfl | hmem
      · exact .inr (.inr rfl)
      · exact .inl (ht u rfl c hmem)
  rw [TagParts.text, List.mem_append, List.mem_append, List.mem_append, List.mem_flatMap] at hc
  rcases hc with ((hc | hc) | ⟨component, hcomponent, hc⟩) | hc
  · exact .inl (hp.first.isNameText c hc)
  · exact hbehind p.port (fun d hd => (hp.port d hd).isNameText) hc
  · rcases List.mem_cons.1 hc with rfl | hc
    · exact .inr (.inl rfl)
    · exact .inl ((hp.rest component hcomponent).isNameText c hc)
  · exact hbehind p.version (fun v hv => (hp.version v hv).1.isNameText) hc

/-- Between slashes, and up to a colon, a tag has a component. -/
theorem TagParts.IsGrammatical.isComponent_of_mem_split {piece : List Char}
    (hpiece : piece ∈ Text.split (· == '/') p.text) : IsComponent (piece.takeWhile (· ≠ ':')) := by
  have hcut : ∀ s t u, IsComponent s →
      IsComponent ((s ++ behindColon t ++ behindColon u).takeWhile (· ≠ ':')) := by
    intro s t u hs
    have hfree : ∀ c ∈ s, c ≠ ':' := by
      rintro c hc rfl
      exact hs.isNameText.colon_notMem hc
    rw [append_behindColon, Text.takeWhile_join_cons ':' hfree]
    exact hs
  cases hrest : p.rest using List.reverseRecOn with
  | nil =>
    rw [hp.split_text_of_nil hrest, List.mem_singleton] at hpiece
    rw [hpiece]
    exact hcut p.first p.port p.version hp.first
  | append_singleton init last =>
    have hall := hp.rest
    rw [hrest, List.forall_mem_append, List.forall_mem_singleton] at hall
    rw [hp.split_text_of_concat hrest] at hpiece
    simp only [List.mem_cons, List.mem_append, List.not_mem_nil, or_false] at hpiece
    rcases hpiece with rfl | hpiece | rfl
    · simpa using hcut p.first p.port none hp.first
    · simpa using hcut piece none none (hall.1 piece hpiece)
    · simpa using hcut last p.version none hall.2

/-- A version that is put behind a tag without one is a version of a tag if it is not too long, and
    only then, unless it may also be read as the port of the only component. -/
theorem TagParts.IsGrammatical.isTag_append_version (hnone : p.version = none) {v : List Char}
    (hv : HasVersionForm v) (hport : IsPort v → ':' ∈ p.text ∨ '/' ∈ p.text) :
    isTag (p.text ++ ':' :: v) = true ↔ v.length ≤ 128 := by
  rw [isTag_iff]
  constructor
  · rintro ⟨q, hq, htext⟩
    have hcolon : ':' ∉ v := hv.isNameText.colon_notMem
    have hslash : '/' ∉ v := hv.isNameText.slash_notMem
    cases hversion : q.version with
    | some w =>
      -- behind the last colon is the version
      have hw : IsVersion w := hq.version w hversion
      rw [TagParts.text, hversion] at htext
      obtain ⟨-, -, rfl⟩ := Text.append_cons_inj_last htext hw.1.isNameText.colon_notMem hcolon
      exact hw.2
    | none =>
      cases hrest : q.rest using List.reverseRecOn with
      | append_singleton init last =>
        -- the last component is behind a slash, and has no colon
        have hlast : IsComponent last := hq.rest last (by simp [hrest])
        have hcut : (q.first ++ behindColon q.port ++ init.flatMap ('/' :: ·)) ++ '/' :: last =
            p.text ++ ':' :: v := by
          rw [← htext, TagParts.text, hrest, hversion]
          simp
        obtain ⟨-, hfalse, -⟩ := Text.append_cons_inj_last hcut hlast.isNameText.colon_notMem hslash
        exact absurd hfalse (by decide)
      | nil =>
        rw [TagParts.text, hrest, hversion, List.flatMap_nil, behindColon_none, List.append_nil,
          List.append_nil] at htext
        cases hd : q.port with
        | none =>
          rw [hd, behindColon_none, List.append_nil] at htext
          exact absurd (htext ▸ by simp) hq.first.isNameText.colon_notMem
        | some d =>
          rw [hd, behindColon_some] at htext
          have hisPort : IsPort d := hq.port d hd
          obtain ⟨hfirst, -, rfl⟩ :=
            Text.append_cons_inj_last htext hisPort.isNameText.colon_notMem hcolon
          -- behind the only colon of an only component is a port
          rw [← hfirst] at hport
          rcases hport hisPort with hmem | hmem
          · exact absurd hmem hq.first.isNameText.colon_notMem
          · exact absurd hmem hq.first.isNameText.slash_notMem
  · intro hlength
    refine ⟨{ p with version := some v }, ⟨hp.first, hp.port, hp.rest, ?_⟩, ?_⟩
    · rintro w ⟨⟩
      exact ⟨hv, hlength⟩
    · simp [TagParts.text, hnone]

end Grammatical

/-- **The grammar of tags.** A string is a tag exactly when it is put together from parts in the
    grammar.  Hence no tag has a blank or a line break in it; each of its components, between
    slashes and up to a colon, begins and ends with a small letter or digit, so that none is empty;
    and a text in the form of a version, put behind a tag without one, makes a tag exactly when it
    has at most 128 characters, unless it is digits behind an only component, where it may also be a
    port. -/
theorem tag_grammar (tag : String) :
    (isValidTag tag = true ↔ ∃ p : TagParts, p.IsGrammatical ∧ p.text = tag.toList) ∧
    (isValidTag tag = true → ∀ c ∈ tag.toList, Text.isBlank c = false) ∧
    (isValidTag tag = true → ∀ piece ∈ Text.split (· == '/') tag.toList,
      ∃ c d, (piece.takeWhile (· ≠ ':')).head? = some c ∧ IsSmall c ∧
        (piece.takeWhile (· ≠ ':')).getLast? = some d ∧ IsSmall d) ∧
    ∀ p : TagParts, p.IsGrammatical → p.version = none → p.text = tag.toList →
      ∀ v, HasVersionForm v → (IsPort v → ':' ∈ tag.toList ∨ '/' ∈ tag.toList) →
        (isValidTag (tag ++ ":" ++ String.ofList v) = true ↔ v.length ≤ 128) := by
  refine ⟨isTag_iff, ?_, ?_, ?_⟩
  · intro h c hc
    obtain ⟨p, hp, htext⟩ := isTag_iff.1 h
    rcases hp.mem_text (htext ▸ hc) with hname | rfl | rfl
    · exact hname.isBlank_eq_false
    · decide
    · decide
  · intro h piece hpiece
    obtain ⟨p, hp, htext⟩ := isTag_iff.1 h
    have hcomponent := hp.isComponent_of_mem_split (htext ▸ hpiece)
    obtain ⟨c, hc, hcsmall⟩ := hcomponent.exists_head?
    obtain ⟨d, hd, hdsmall⟩ := hcomponent.exists_getLast?
    exact ⟨c, d, hc, hcsmall, hd, hdsmall⟩
  · intro p hp hnone htext v hv hport
    rw [← htext] at hport
    rw [← hp.isTag_append_version hnone hv hport, isValidTag, htext]
    simp

/-- A tag with a registry, a port and a path. -/
def registryTag : TagParts :=
  { first := ['h', 'o', 's', 't'], port := some ['8', '0'], rest := [['a', '-', '-', 'b']] }

/-- The text of this tag is a tag without blanks and with components that end as they should, and it
    may get a version of 128 characters, but none of 129. -/
theorem registry_tag_with_longest_version :
    isValidTag "host:80/a--b" = true ∧ Text.isBlank '/' = false ∧
    (∃ c d, ['a', '-', '-', 'b'].head? = some c ∧ IsSmall c ∧
      ['a', '-', '-', 'b'].getLast? = some d ∧ IsSmall d) ∧
    isValidTag ("host:80/a--b" ++ ":" ++ String.ofList (List.replicate 128 't')) = true ∧
    isValidTag ("host:80/a--b" ++ ":" ++ String.ofList (List.replicate 129 't')) = false := by
  have hparts : registryTag.IsGrammatical := by
    refine ⟨isComponent_iff.1 (by decide), ?_, ?_, by simp [registryTag]⟩
    · rintro d ⟨⟩
      exact isPort_iff.1 (by decide)
    · have hpath : IsComponent ['a', '-', '-', 'b'] := isComponent_iff.1 (by decide)
      simpa [registryTag] using hpath
  have hform : ∀ n, HasVersionForm (List.replicate (n + 1) 't') := by
    intro n
    refine ⟨'t', List.replicate n 't', rfl, by decide, fun d hd => ?_⟩
    rw [List.eq_of_mem_replicate hd]
    decide
  obtain ⟨hvalid, hblank, hends, hversion⟩ := tag_grammar "host:80/a--b"
  have htext : registryTag.text = "host:80/a--b".toList := by decide
  have htag : isValidTag "host:80/a--b" = true := hvalid.2 ⟨registryTag, hparts, htext⟩
  have hlength := fun n =>
    hversion registryTag hparts rfl htext (List.replicate (n + 1) 't') (hform n)
      fun _ => .inl (by decide)
  refine ⟨htag, hblank htag '/' (by decide), ?_, ?_, ?_⟩
  · exact hends htag ['a', '-', '-', 'b'] (by decide)
  · exact (hlength 127).2 (by simp)
  · rw [Bool.eq_false_iff, Ne, hlength 128, List.length_replicate]
    decide

end ImageBuild.Request
