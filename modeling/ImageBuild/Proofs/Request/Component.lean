import ImageBuild.Request.Tag
import ImageBuild.Text.Blank
import Mathlib.Data.List.Induction

namespace ImageBuild.Request

/-!
# Components — what stands between the slashes and the colons of a tag

The reader of tags follows each component with a machine, character by character.  From every state
it accepts what may still follow there (`Follows`, `accepts_iff`), so that it reads components
(`isComponent_iff`), as it reads ports and versions (`isPort_iff`, `isVersion_iff`).  All three are
made of the same characters (`IsNameText`), of which no one is a slash, a colon or a blank, and a
component begins and ends with a small letter or digit.
-/

/-! ### The grammar -/

/-- A small letter or a digit. -/
def IsSmall (c : Char) : Prop := ('a' ≤ c ∧ c ≤ 'z') ∨ ('0' ≤ c ∧ c ≤ '9')

/-- A letter, a digit or an underscore. -/
def IsWord (c : Char) : Prop :=
  ('a' ≤ c ∧ c ≤ 'z') ∨ ('A' ≤ c ∧ c ≤ 'Z') ∨ ('0' ≤ c ∧ c ≤ '9') ∨ c = '_'

/-- A letter, a digit, an underscore, a point or a hyphen. -/
def IsNameChar (c : Char) : Prop := IsWord c ∨ c = '.' ∨ c = '-'

/-- A text of such characters. -/
def IsNameText (s : List Char) : Prop := ∀ c ∈ s, IsNameChar c

instance (c : Char) : Decidable (IsSmall c) := inferInstanceAs (Decidable (_ ∨ _))

instance (c : Char) : Decidable (IsWord c) := inferInstanceAs (Decidable (_ ∨ _))

instance (c : Char) : Decidable (IsNameChar c) := inferInstanceAs (Decidable (_ ∨ _))

/-- One or more small letters and digits. -/
def IsRun (s : List Char) : Prop := s ≠ [] ∧ ∀ c ∈ s, IsSmall c

/-- What may stand between two runs: a point, one or two underscores, or hyphens. -/
inductive IsSeparator : List Char → Prop
  | point : IsSeparator ['.']
  | underscore : IsSeparator ['_']
  | twoUnderscores : IsSeparator ['_', '_']
  | hyphens (n : Nat) : IsSeparator (List.replicate (n + 1) '-')

/-- Runs with single separators between them. -/
inductive IsComponent : List Char → Prop
  | run {r : List Char} (hr : IsRun r) : IsComponent r
  | more {r separator s : List Char} (hr : IsRun r) (hseparator : IsSeparator separator)
      (hs : IsComponent s) : IsComponent (r ++ separator ++ s)

/-- One or more digits. -/
def IsPort (s : List Char) : Prop := s ≠ [] ∧ ∀ c ∈ s, '0' ≤ c ∧ c ≤ '9'

/-- The form of a version, whatever its length: no point and no hyphen begins it. -/
def HasVersionForm (s : List Char) : Prop :=
  ∃ c rest, s = c :: rest ∧ IsWord c ∧ ∀ d ∈ rest, IsNameChar d

/-- A character that may begin a version, and at most 127 more. -/
def IsVersion (s : List Char) : Prop := HasVersionForm s ∧ s.length ≤ 128

/-! ### Components -/

/-- The characters of runs are small letters and digits. -/
theorem isRunChar_iff {c : Char} : isRunChar c = true ↔ IsSmall c := by
  rw [isRunChar, IsSmall, Bool.or_eq_true, Bool.and_eq_true, decide_eq_true_eq, decide_eq_true_eq,
    Char.isDigit_iff_toNat]
  exact Iff.rfl

/-- A separator and a component behind it. -/
def IsContinuation (s : List Char) : Prop :=
  ∃ separator t, IsSeparator separator ∧ IsComponent t ∧ s = separator ++ t

/-- What may follow a character of a run: nothing, more of the run, or a separator and more. -/
def FollowsRun (s : List Char) : Prop := s = [] ∨ IsComponent s ∨ IsContinuation s

/-- A small letter or digit may stand in front of a component. -/
theorem IsComponent.cons {c : Char} {s : List Char} (hc : IsSmall c) (hs : IsComponent s) :
    IsComponent (c :: s) := by
  cases hs with
  | run hr => exact .run ⟨by simp, List.forall_mem_cons.2 ⟨hc, hr.2⟩⟩
  | @more r separator t hr hseparator ht =>
    rw [← List.cons_append, ← List.cons_append]
    exact .more ⟨by simp, List.forall_mem_cons.2 ⟨hc, hr.2⟩⟩ hseparator ht

/-- The rest of a run, and what is behind the run, may follow a character of the run. -/
theorem followsRun_append {r s : List Char} (hr : ∀ c ∈ r, IsSmall c)
    (hs : s = [] ∨ IsContinuation s) :
    FollowsRun (r ++ s) := by
  by_cases hnil : r = []
  · -- the run is at its end, and what is behind it is left
    subst hnil
    exact hs.imp_right .inr
  · right
    left
    rcases hs with rfl | ⟨separator, t, hseparator, ht, rfl⟩
    · rw [List.append_nil]
      exact .run ⟨hnil, hr⟩
    · rw [← List.append_assoc]
      exact .more ⟨hnil, hr⟩ hseparator ht

/-- A component is a small letter or digit and what may follow it. -/
theorem isComponent_cons_iff {c : Char} {s : List Char} :
    IsComponent (c :: s) ↔ IsSmall c ∧ FollowsRun s := by
  constructor
  · intro h
    generalize htext : c :: s = text at h
    cases h with
    | run hr =>
      -- what is left of the only run
      subst htext
      obtain ⟨hc, hs⟩ := List.forall_mem_cons.1 hr.2
      refine ⟨hc, ?_⟩
      rw [← List.append_nil s]
      exact followsRun_append hs (.inl rfl)
    | @more r separator t hr hseparator ht =>
      -- what is left of the first run, and the separator behind it
      obtain ⟨d, r, rfl⟩ := List.exists_cons_of_ne_nil hr.1
      obtain ⟨hd, hrest⟩ := List.forall_mem_cons.1 hr.2
      rw [List.append_assoc, List.cons_append, List.cons.injEq] at htext
      obtain ⟨rfl, rfl⟩ := htext
      exact ⟨hd, followsRun_append hrest (.inr ⟨separator, t, hseparator, ht, rfl⟩)⟩
  · rintro ⟨hc, rfl | hs | ⟨separator, t, hseparator, ht, rfl⟩⟩
    · exact .run ⟨by simp, by simpa using hc⟩
    · exact hs.cons hc
    · have hrun : IsRun [c] := ⟨by simp, by simpa using hc⟩
      exact .more hrun hseparator ht

/-- There is no empty component. -/
theorem IsComponent.ne_nil {s : List Char} (h : IsComponent s) : s ≠ [] := by
  cases h with
  | run hr => exact hr.1
  | more hr => simp [hr.1]

/-! ### The machine of components -/

/-- What may still follow in a state of the machine. -/
def Follows : ComponentState → List Char → Prop
  | .start, s | .point, s | .twoUnderscores, s => IsComponent s
  | .run, s => FollowsRun s
  | .underscore, s => IsComponent s ∨ ∃ t, IsComponent t ∧ s = '_' :: t
  | .hyphens, s => ∃ n t, IsComponent t ∧ s = List.replicate n '-' ++ t

/-- Only in a run may a component end. -/
theorem follows_nil_iff (state : ComponentState) : Follows state [] ↔ state = .run := by
  have hnil : ¬ IsComponent [] := fun h => h.ne_nil rfl
  cases state <;> simp [Follows, FollowsRun, hnil]

/-- A separator and what is behind it begin with a character that stands in no run. -/
theorem isContinuation_cons_iff {c : Char} {s : List Char} :
    IsContinuation (c :: s) ↔ (c = '.' ∧ Follows .point s) ∨ (c = '_' ∧ Follows .underscore s) ∨
      (c = '-' ∧ Follows .hyphens s) := by
  constructor
  · rintro ⟨separator, t, hseparator, ht, htext⟩
    cases hseparator with
    | point =>
      obtain ⟨rfl, rfl⟩ := List.cons.inj htext
      exact .inl ⟨rfl, ht⟩
    | underscore =>
      obtain ⟨rfl, rfl⟩ := List.cons.inj htext
      exact .inr (.inl ⟨rfl, .inl ht⟩)
    | twoUnderscores =>
      obtain ⟨rfl, rfl⟩ := List.cons.inj htext
      exact .inr (.inl ⟨rfl, .inr ⟨t, ht, rfl⟩⟩)
    | hyphens n =>
      obtain ⟨rfl, rfl⟩ := List.cons.inj htext
      exact .inr (.inr ⟨rfl, n, t, ht, rfl⟩)
  · rintro (⟨rfl, hs⟩ | ⟨rfl, hs | ⟨t, ht, rfl⟩⟩ | ⟨rfl, n, t, ht, rfl⟩)
    · exact ⟨['.'], s, .point, hs, rfl⟩
    · exact ⟨['_'], s, .underscore, hs, rfl⟩
    · exact ⟨['_', '_'], t, .twoUnderscores, ht, rfl⟩
    · exact ⟨_, t, .hyphens n, ht, rfl⟩

/-- Where the machine goes. -/
theorem next?_eq_some_iff {state next : ComponentState} {c : Char} :
    state.next? c = some next ↔ (IsSmall c ∧ next = .run) ∨
      (state = .run ∧ c = '.' ∧ next = .point) ∨ (state = .run ∧ c = '_' ∧ next = .underscore) ∨
      (state = .underscore ∧ c = '_' ∧ next = .twoUnderscores) ∨
      ((state = .run ∨ state = .hyphens) ∧ c = '-' ∧ next = .hyphens) := by
  unfold ComponentState.next?
  -- no character of a run is one of a separator, so that one of the two sides is left
  by_cases hc : IsSmall c
  · have hne : c ≠ '.' ∧ c ≠ '_' ∧ c ≠ '-' := by
      refine ⟨?_, ?_, ?_⟩ <;> (rintro rfl; revert hc; decide)
    simp [isRunChar_iff.2 hc, hc, hne, eq_comm]
  · rw [if_neg (mt isRunChar_iff.1 hc)]
    split <;> grind

/-- What may follow in a state is a character that the machine can go on with, and what may follow
    in the state that it goes to. -/
theorem follows_cons_iff (state : ComponentState) (c : Char) (s : List Char) :
    Follows state (c :: s) ↔ ∃ next, state.next? c = some next ∧ Follows next s := by
  simp only [next?_eq_some_iff, or_and_right, exists_or, and_assoc, exists_and_left, exists_eq_left]
  cases state with
  | start => simp [Follows, isComponent_cons_iff]
  | point => simp [Follows, isComponent_cons_iff]
  | twoUnderscores => simp [Follows, isComponent_cons_iff]
  | run => simp [Follows, FollowsRun, isComponent_cons_iff, isContinuation_cons_iff]
  | underscore => simp [Follows, isComponent_cons_iff, and_comm]
  | hyphens =>
    -- no hyphen is left, and the component begins, or there is one more
    have hhyphens : Follows .hyphens (c :: s) ↔
        IsComponent (c :: s) ∨ c = '-' ∧ Follows .hyphens s := by
      constructor
      · rintro ⟨n, t, ht, htext⟩
        cases n with
        | zero => exact .inl (htext ▸ ht)
        | succ n =>
          obtain ⟨rfl, rfl⟩ := List.cons.inj htext
          exact .inr ⟨rfl, n, t, ht, rfl⟩
      · rintro (hs | ⟨rfl, n, t, ht, rfl⟩)
        · exact ⟨0, c :: s, hs, rfl⟩
        · exact ⟨n + 1, t, ht, rfl⟩
    rw [hhyphens, isComponent_cons_iff]
    simp [Follows]

/-- **Components.** From every state the machine accepts what may still follow there. -/
theorem accepts_iff (state : ComponentState) (s : List Char) :
    state.accepts s = true ↔ Follows state s := by
  -- induction on what is left, for every state that the machine may be in
  induction s generalizing state with
  | nil => rw [ComponentState.accepts, beq_iff_eq, follows_nil_iff]
  | cons c s ih =>
    rw [follows_cons_iff, ComponentState.accepts]
    cases state.next? c with
    | none => simp
    | some next => simp [ih]

/-- The reader of components accepts components. -/
theorem isComponent_iff {s : List Char} : isComponent s = true ↔ IsComponent s :=
  accepts_iff .start s

/-! ### Ports and versions -/

/-- A digit lies between the first and the last one. -/
theorem isDigit_iff {c : Char} : c.isDigit = true ↔ '0' ≤ c ∧ c ≤ '9' :=
  Char.isDigit_iff_toNat

/-- The reader of ports accepts ports. -/
theorem isPort_iff {s : List Char} : isPort s = true ↔ IsPort s := by
  rw [isPort, IsPort, Bool.and_eq_true, decide_eq_true_eq, List.all_eq_true]
  simp only [isDigit_iff]

/-- Letters, digits and the underscore are the characters of words. -/
theorem isWord_iff {c : Char} : (c.isAlphanum || c == '_') = true ↔ IsWord c := by
  have hupper : c.isUpper = true ↔ 'A' ≤ c ∧ c ≤ 'Z' := decide_eq_true_iff
  have hlower : c.isLower = true ↔ 'a' ≤ c ∧ c ≤ 'z' := by
    show (decide ('a' ≤ c) && decide (c ≤ 'z')) = true ↔ _
    rw [Bool.and_eq_true, decide_eq_true_eq, decide_eq_true_eq]
  have halpha : c.isAlpha = true ↔ c.isUpper = true ∨ c.isLower = true := by
    show (c.isUpper || c.isLower) = true ↔ _
    rw [Bool.or_eq_true]
  rw [IsWord, Bool.or_eq_true, beq_iff_eq, Char.isAlphanum, Bool.or_eq_true, halpha, isDigit_iff,
    hupper, hlower, or_assoc, or_assoc, or_left_comm]

/-- The reader of versions accepts versions. -/
theorem isVersion_iff {s : List Char} : isVersion s = true ↔ IsVersion s := by
  have hrest : ∀ d : Char, (d.isAlphanum || d == '_' || d == '.' || d == '-') = true ↔
      IsNameChar d := by
    intro d
    rw [Bool.or_eq_true, Bool.or_eq_true, isWord_iff, beq_iff_eq, beq_iff_eq, IsNameChar, or_assoc]
  cases s with
  | nil => simp [isVersion, IsVersion, HasVersionForm]
  | cons c rest =>
    simp only [isVersion, IsVersion, HasVersionForm, Bool.and_eq_true, isWord_iff, List.all_eq_true,
      hrest, decide_eq_true_eq, List.length_cons]
    rw [show maxVersionLength = 128 from rfl]
    constructor
    · rintro ⟨⟨hc, hlength⟩, hnames⟩
      exact ⟨⟨c, rest, rfl, hc, hnames⟩, by omega⟩
    · rintro ⟨⟨d, others, heq, hd, hnames⟩, hlength⟩
      cases heq
      exact ⟨⟨hd, by omega⟩, hnames⟩

/-! ### Characters -/

/-- The characters of runs are characters of names. -/
theorem IsSmall.isNameChar {c : Char} (h : IsSmall c) : IsNameChar c :=
  .inl (h.imp_right fun h => .inr (.inl h))

/-- The characters of separators are characters of names. -/
theorem IsSeparator.isNameText {s : List Char} (h : IsSeparator s) : IsNameText s := by
  have hpoint : IsNameChar '.' := .inr (.inl rfl)
  have hunderscore : IsNameChar '_' := .inl (.inr (.inr (.inr rfl)))
  have hhyphen : IsNameChar '-' := .inr (.inr rfl)
  cases h with
  | point => simpa [IsNameText] using hpoint
  | underscore => simpa [IsNameText] using hunderscore
  | twoUnderscores => simpa [IsNameText] using hunderscore
  | hyphens n =>
    intro c hc
    rw [List.eq_of_mem_replicate hc]
    exact hhyphen

/-- The characters of components are characters of names. -/
theorem IsComponent.isNameText {s : List Char} (h : IsComponent s) : IsNameText s := by
  induction h with
  | run hr => exact fun c hc => (hr.2 c hc).isNameChar
  | more hr hseparator hs ih =>
    intro c hc
    rw [List.mem_append, List.mem_append] at hc
    rcases hc with (hc | hc) | hc
    · exact (hr.2 c hc).isNameChar
    · exact hseparator.isNameText c hc
    · exact ih c hc

/-- The characters of ports are characters of names. -/
theorem IsPort.isNameText {s : List Char} (h : IsPort s) : IsNameText s :=
  fun c hc => IsSmall.isNameChar (.inr (h.2 c hc))

/-- The characters of versions are characters of names. -/
theorem HasVersionForm.isNameText {s : List Char} (h : HasVersionForm s) : IsNameText s := by
  obtain ⟨c, rest, rfl, hc, hrest⟩ := h
  exact List.forall_mem_cons.2 ⟨.inl hc, hrest⟩

/-- A text of such characters has no colon in it. -/
theorem IsNameText.colon_notMem {s : List Char} (h : IsNameText s) : ':' ∉ s :=
  fun hmem => absurd (h ':' hmem) (by decide)

/-- A text of such characters has no slash in it. -/
theorem IsNameText.slash_notMem {s : List Char} (h : IsNameText s) : '/' ∉ s :=
  fun hmem => absurd (h '/' hmem) (by decide)

/-- The characters of names are not blank. -/
theorem IsNameChar.isBlank_eq_false {c : Char} (h : IsNameChar c) : Text.isBlank c = false := by
  have hword : IsWord c ↔ (97 ≤ c.toNat ∧ c.toNat ≤ 122) ∨ (65 ≤ c.toNat ∧ c.toNat ≤ 90) ∨
      (48 ≤ c.toNat ∧ c.toNat ≤ 57) ∨ c = '_' := Iff.rfl
  have hcode : 45 ≤ c.toNat ∧ c.toNat ≤ 122 := by
    rw [IsNameChar, hword] at h
    rcases h with (h | h | h | rfl) | rfl | rfl
    · omega
    · omega
    · omega
    · decide
    · decide
    · decide
  simp only [Text.isBlank, Bool.or_eq_false_iff, Bool.and_eq_false_iff, decide_eq_false_iff_not,
    beq_eq_false_iff_ne]
  omega

/-- A component ends with a small letter or digit. -/
theorem IsComponent.exists_getLast? {s : List Char} (h : IsComponent s) :
    ∃ c, s.getLast? = some c ∧ IsSmall c := by
  induction h with
  | @run r hr =>
    refine ⟨r.getLast hr.1, List.getLast?_eq_some_getLast hr.1, hr.2 _ (List.getLast_mem hr.1)⟩
  | more hr hseparator hs ih =>
    obtain ⟨c, hlast, hc⟩ := ih
    exact ⟨c, by rw [List.getLast?_append, hlast]; rfl, hc⟩

/-- A component begins with a small letter or digit. -/
theorem IsComponent.exists_head? {s : List Char} (h : IsComponent s) :
    ∃ c, s.head? = some c ∧ IsSmall c := by
  cases s with
  | nil => exact absurd rfl h.ne_nil
  | cons c s => exact ⟨c, rfl, (isComponent_cons_iff.1 h).1⟩

end ImageBuild.Request
