import Mathlib.Data.List.TakeWhile
import ImageBuild.Log.Mask
import ImageBuild.Proofs.Text.LowerCase

namespace ImageBuild.Log

/-!
# Announcements — where a rule sees a secret

A secret is announced by a word and by what links it to the value.  The words are made of letters
and hyphens (`isCueChar`), links of blanks, quotation marks, colons and equals signs (`isLinkChar`),
so that a text has one announcement at its front at most.

* `Rule.LooksForAssignment.isLink_iff`, `isLink_bearer_iff` — the two sorts of links.
* `Rule.IsRegular` — what the three rules have in common; the rest of the theory rests on this.
* `Rule.IsRegular.valueAt?_eq_some_iff` — a rule sees a value exactly behind an announcement.
-/

/-! ### Characters -/

/-- The characters of words, capitals among them. -/
def isCueChar (c : Char) : Bool := c.isAlpha || c == '-'

/-- The characters of links. -/
def isLinkChar (c : Char) : Bool :=
  Text.isBlank c || c == '"' || c == Char.ofNat 0x27 || c == ':' || c == '='

/-- The numbers of letters. -/
theorem isAlpha_iff (c : Char) : c.isAlpha = true ↔
    (65 ≤ c.toNat ∧ c.toNat ≤ 90) ∨ (97 ≤ c.toNat ∧ c.toNat ≤ 122) := by
  have hupper : c.isUpper = true ↔ 65 ≤ c.toNat ∧ c.toNat ≤ 90 := decide_eq_true_iff
  have hlower : c.isLower = true ↔ 97 ≤ c.toNat ∧ c.toNat ≤ 122 := by
    show (decide ('a' ≤ c) && decide (c ≤ 'z')) = true ↔ _
    rw [Bool.and_eq_true, decide_eq_true_eq, decide_eq_true_eq]
    exact Iff.rfl
  show (c.isUpper || c.isLower) = true ↔ _
  rw [Bool.or_eq_true, hupper, hlower]

/-- The numbers of letters and of the hyphen. -/
theorem isCueChar_iff (c : Char) : isCueChar c = true ↔
    (65 ≤ c.toNat ∧ c.toNat ≤ 90) ∨ (97 ≤ c.toNat ∧ c.toNat ≤ 122) ∨ c.toNat = 45 := by
  have hhyphen : c = '-' ↔ c.toNat = 45 := by
    rw [← Char.toNat_inj]
    rfl
  rw [isCueChar, Bool.or_eq_true, isAlpha_iff, beq_iff_eq, hhyphen, or_assoc]

/-- The numbers of blanks below 128. -/
theorem toNat_of_isBlank {c : Char} (h : Text.isBlank c = true) :
    (9 ≤ c.toNat ∧ c.toNat ≤ 13) ∨ c.toNat = 32 ∨ 160 ≤ c.toNat := by
  simp only [Text.isBlank, Bool.or_eq_true, Bool.and_eq_true, decide_eq_true_eq, beq_iff_eq] at h
  omega

/-- The numbers of the characters of links, up to those beyond ASCII. -/
theorem toNat_of_isLinkChar {c : Char} (h : isLinkChar c = true) :
    (9 ≤ c.toNat ∧ c.toNat ≤ 13) ∨ c.toNat = 32 ∨ c.toNat = 34 ∨ c.toNat = 39 ∨ c.toNat = 58 ∨
      c.toNat = 61 ∨ 160 ≤ c.toNat := by
  simp only [isLinkChar, Bool.or_eq_true, beq_iff_eq] at h
  rcases h with (((h | rfl) | rfl) | rfl) | rfl
  · have := toNat_of_isBlank h
    omega
  all_goals decide

/-- No character is part of a word and of a link. -/
theorem isCueChar_eq_false {c : Char} (h : isLinkChar c = true) : isCueChar c = false := by
  rw [← Bool.not_eq_true, isCueChar_iff]
  have := toNat_of_isLinkChar h
  omega

/-- Letter by letter, a word in any letter cases has only characters of words. -/
theorem isCueChar_of_asciiLower {c d : Char} (h : Text.asciiLower c = d)
    (hd : isCueChar d = true) : isCueChar c = true := by
  rcases Text.asciiLower_cases c with ⟨hlow, hhigh, -⟩ | heq
  · exact (isCueChar_iff c).2 (.inl ⟨hlow, hhigh⟩)
  · rwa [← heq, h]

/-! ### Links -/

/-- A text links to any value of a rule, and to what stands for a value. -/
def Rule.IsLink (rule : Rule) (link : List Char) : Prop :=
  ∀ c s, (rule.isValue c = true ∨ c = '*') → rule.afterLink (link ++ c :: s) = some (c :: s)

/-- What can be dropped as a quotation mark at the front. -/
inductive IsQuote : List Char → Prop
  | none : IsQuote []
  | double : IsQuote ['"']
  | single : IsQuote [Char.ofNat 0x27]

/-- A colon or an equals sign, with blanks and quotation marks around it. -/
inductive IsAssignment : List Char → Prop
  | intro {opening blanks : List Char} {mark : Char} {blanks' closing : List Char}
    (hopening : IsQuote opening) (hblanks : ∀ c ∈ blanks, Text.isBlank c = true)
    (hmark : mark = ':' ∨ mark = '=') (hblanks' : ∀ c ∈ blanks', Text.isBlank c = true)
    (hclosing : IsQuote closing) :
    IsAssignment (opening ++ blanks ++ mark :: blanks' ++ closing)

/-- A text begins with the quotation mark that is dropped. -/
theorem exists_isQuote (s : List Char) : ∃ q, IsQuote q ∧ s = q ++ dropQuote s := by
  cases s with
  | nil => exact ⟨[], .none, rfl⟩
  | cons c s =>
    by_cases h : c = '"' ∨ c = Char.ofNat 0x27
    · rw [dropQuote, if_pos h]
      rcases h with rfl | rfl
      · exact ⟨_, .double, rfl⟩
      · exact ⟨_, .single, rfl⟩
    · rw [dropQuote, if_neg h]
      exact ⟨[], .none, rfl⟩

/-- The quotation mark in front of another character is dropped. -/
theorem dropQuote_append {q : List Char} (hq : IsQuote q) {c : Char} (hc : c ≠ '"')
    (hc' : c ≠ Char.ofNat 0x27) (s : List Char) : dropQuote (q ++ c :: s) = c :: s := by
  cases hq with
  | none => simp [dropQuote, hc, hc']
  | double => rfl
  | single => rfl

/-- Blanks in front of another character are dropped. -/
theorem dropWhile_isBlank_append {b : List Char} (hb : ∀ c ∈ b, Text.isBlank c = true) {c : Char}
    (hc : Text.isBlank c = false) (s : List Char) :
    (b ++ c :: s).dropWhile Text.isBlank = c :: s := by
  rw [List.dropWhile_append_of_pos hb, List.dropWhile_cons_of_neg (by simp [hc])]

/-- The mark of an assignment is no blank and no quotation mark. -/
theorem mark_facts {m : Char} (h : m = ':' ∨ m = '=') :
    Text.isBlank m = false ∧ m ≠ '"' ∧ m ≠ Char.ofNat 0x27 := by
  rcases h with rfl | rfl <;> decide

/-- An assignment leads to what follows it. -/
theorem IsAssignment.afterAssignment_eq {l : List Char} (hl : IsAssignment l) {c : Char}
    (hblank : Text.isBlank c = false) (hdouble : c ≠ '"') (hsingle : c ≠ Char.ofNat 0x27)
    (s : List Char) : afterAssignment (l ++ c :: s) = some (c :: s) := by
  obtain ⟨hopening, hblanks, hmark, hblanks', hclosing⟩ := hl
  rename_i opening blanks mark blanks' closing
  obtain ⟨hm, hm', hm''⟩ := mark_facts hmark
  -- what stands behind the first quotation mark does not begin with one
  have hfront : dropQuote (opening ++ (blanks ++ mark :: (blanks' ++ (closing ++ c :: s)))) =
      blanks ++ mark :: (blanks' ++ (closing ++ c :: s)) := by
    cases blanks with
    | nil => exact dropQuote_append hopening hm' hm'' _
    | cons b blanks =>
      have hb : Text.isBlank b = true := hblanks b (by simp)
      refine dropQuote_append hopening ?_ ?_ _
      · rintro rfl
        exact absurd hb (by decide)
      · rintro rfl
        exact absurd hb (by decide)
  have hback : (blanks' ++ (closing ++ c :: s)).dropWhile Text.isBlank = closing ++ c :: s := by
    cases hclosing with
    | none => exact dropWhile_isBlank_append hblanks' hblank s
    | double => exact dropWhile_isBlank_append hblanks' (by decide) _
    | single => exact dropWhile_isBlank_append hblanks' (by decide) _
  have hwhole : opening ++ blanks ++ mark :: blanks' ++ closing ++ c :: s =
      opening ++ (blanks ++ mark :: (blanks' ++ (closing ++ c :: s))) := by
    simp
  rw [hwhole, afterAssignment, hfront, dropWhile_isBlank_append hblanks hm]
  show (if mark = ':' ∨ mark = '=' then _ else _) = _
  rw [if_pos hmark, hback, dropQuote_append hclosing hdouble hsingle]

/-- A text begins with the blanks that are dropped. -/
theorem exists_blanks (s : List Char) :
    ∃ b, (∀ c ∈ b, Text.isBlank c = true) ∧ s = b ++ s.dropWhile Text.isBlank :=
  ⟨s.takeWhile Text.isBlank, fun _ hc => List.mem_takeWhile_imp hc,
    List.takeWhile_append_dropWhile.symm⟩

/-- What is found behind an assignment stands behind one. -/
theorem exists_isAssignment {s v : List Char} (h : afterAssignment s = some v) :
    ∃ l, IsAssignment l ∧ s = l ++ v := by
  obtain ⟨opening, hopening, hs⟩ := exists_isQuote s
  obtain ⟨blanks, hblanks, hfront⟩ := exists_blanks (dropQuote s)
  unfold afterAssignment at h
  split at h
  · rename_i mark rest hrest
    split at h
    · rename_i hmark
      obtain ⟨blanks', hblanks', hback⟩ := exists_blanks rest
      obtain ⟨closing, hclosing, hvalue⟩ := exists_isQuote (rest.dropWhile Text.isBlank)
      obtain rfl : dropQuote (rest.dropWhile Text.isBlank) = v := Option.some.inj h
      refine ⟨_, .intro hopening hblanks hmark hblanks' hclosing, ?_⟩
      calc s = opening ++ (blanks ++ mark :: rest) := by rw [← hrest, ← hfront, ← hs]
        _ = opening ++ (blanks ++ mark :: (blanks' ++ rest.dropWhile Text.isBlank)) := by
          rw [← hback]
        _ = opening ++ (blanks ++ mark :: (blanks' ++ (closing ++ _))) := by rw [← hvalue]
        _ = _ := by simp
    · exact absurd h (by simp)
  · exact absurd h (by simp)

/-- An assignment ends with its mark or a quotation mark, and blanks. -/
theorem IsAssignment.exists_last {l : List Char} (hl : IsAssignment l) :
    ∃ front last blanks, l = front ++ last :: blanks ∧ isCueChar last = false ∧
      Text.isBlank last = false ∧ ∀ c ∈ blanks, Text.isBlank c = true := by
  obtain ⟨hopening, hblanks, hmark, hblanks', hclosing⟩ := hl
  rename_i opening blanks mark blanks' closing
  cases hclosing with
  | none =>
    refine ⟨opening ++ blanks, mark, blanks', by simp, ?_, (mark_facts hmark).1, hblanks'⟩
    rcases hmark with rfl | rfl <;> decide
  | double => exact ⟨_, '"', [], rfl, by decide, by decide, by simp⟩
  | single => exact ⟨_, Char.ofNat 0x27, [], rfl, by decide, by decide, by simp⟩

/-- A quotation mark is part of links. -/
theorem IsQuote.isLinkChar {q : List Char} (hq : IsQuote q) : ∀ c ∈ q, isLinkChar c = true := by
  rw [← List.all_eq_true]
  cases hq <;> decide

/-- The characters of an assignment are those of links. -/
theorem IsAssignment.isLinkChar {l : List Char} (hl : IsAssignment l) :
    ∀ c ∈ l, isLinkChar c = true := by
  obtain ⟨hopening, hblanks, hmark, hblanks', hclosing⟩ := hl
  have hblank : ∀ c, Text.isBlank c = true → Log.isLinkChar c = true := fun c hc => by
    simp [Log.isLinkChar, hc]
  intro c hc
  simp only [List.append_assoc, List.cons_append, List.mem_append, List.mem_cons] at hc
  rcases hc with hc | hc | rfl | hc | hc
  · exact hopening.isLinkChar c hc
  · exact hblank c (hblanks c hc)
  · rcases hmark with rfl | rfl <;> decide
  · exact hblank c (hblanks' c hc)
  · exact hclosing.isLinkChar c hc

/-- Rules that look for an assignment. -/
def Rule.LooksForAssignment (rule : Rule) : Prop :=
  rule.afterLink = afterAssignment ∧
    ∀ c, rule.isValue c = true → Text.isBlank c = false ∧ c ≠ '"' ∧ c ≠ Char.ofNat 0x27

/-- For these a link is an assignment. -/
theorem Rule.LooksForAssignment.isLink_iff {rule : Rule} (h : rule.LooksForAssignment)
    {l : List Char} (hvalue : rule.isValue 'a' = true) : rule.IsLink l ↔ IsAssignment l := by
  obtain ⟨hafter, hvalues⟩ := h
  constructor
  · intro hl
    have hfound := hl 'a' [] (.inl hvalue)
    rw [hafter] at hfound
    obtain ⟨l', hl', heq⟩ := exists_isAssignment hfound
    rwa [List.append_cancel_right heq]
  · rintro hl c s (hc | rfl)
    · obtain ⟨hblank, hdouble, hsingle⟩ := hvalues c hc
      rw [hafter, hl.afterAssignment_eq hblank hdouble hsingle]
    · rw [hafter, hl.afterAssignment_eq (by decide) (by decide) (by decide)]

/-- What is found behind blanks stands behind some. -/
theorem exists_blanks_of_afterBlanks {s v : List Char} (h : afterBlanks s = some v) :
    ∃ l, l ≠ [] ∧ (∀ c ∈ l, Text.isBlank c = true) ∧ s = l ++ v := by
  cases s with
  | nil => exact absurd h (by simp [afterBlanks])
  | cons b s =>
    obtain ⟨l, hl, hs⟩ := exists_blanks s
    by_cases hb : Text.isBlank b = true
    · rw [afterBlanks, if_pos hb] at h
      obtain rfl : s.dropWhile Text.isBlank = v := Option.some.inj h
      refine ⟨b :: l, by simp, ?_, by rw [List.cons_append, ← hs]⟩
      rw [List.forall_mem_cons]
      exact ⟨hb, hl⟩
    · rw [afterBlanks, if_neg hb] at h
      exact absurd h (by simp)

/-- Bearer tokens are linked by blanks. -/
theorem isLink_bearer_iff {l : List Char} :
    bearerRule.IsLink l ↔ l ≠ [] ∧ ∀ c ∈ l, Text.isBlank c = true := by
  constructor
  · intro hl
    have hfound : afterBlanks (l ++ ['a']) = some ['a'] := hl 'a' [] (.inl (by decide))
    obtain ⟨l', hne, hl', heq⟩ := exists_blanks_of_afterBlanks hfound
    obtain rfl := List.append_cancel_right heq
    exact ⟨hne, hl'⟩
  · rintro ⟨hne, hl⟩ c s hc
    have hblank : Text.isBlank c = false := by
      rcases hc with hc | rfl
      · simpa [bearerRule] using hc
      · decide
    obtain ⟨b, l, rfl⟩ := List.exists_cons_of_ne_nil hne
    obtain ⟨hb, hl⟩ := List.forall_mem_cons.1 hl
    show (if Text.isBlank b then _ else _) = _
    rw [if_pos hb]
    exact congrArg some (dropWhile_isBlank_append hl hblank s)

/-! ### Rules -/

/-- What the three rules have in common. -/
structure Rule.IsRegular (rule : Rule) : Prop where
  /-- The words are not empty. -/
  word_ne_nil : ∀ cue ∈ rule.cues, cue.word ≠ []
  /-- The words are made of small letters and hyphens. -/
  word_chars : ∀ cue ∈ rule.cues, cue.word.all isCueChar = true
  /-- The characters of words may stand in values. -/
  isValue_of_cueChar : ∀ c, isCueChar c = true → rule.isValue c = true
  /-- There is a link in front of what is looked at as a value. -/
  exists_link : ∀ s c v, rule.isValue c = true → rule.afterLink s = some (c :: v) →
    ∃ l, rule.IsLink l ∧ s = l ++ c :: v
  /-- Links are not empty. -/
  link_ne_nil : ∀ l, rule.IsLink l → l ≠ []
  /-- Links are made of blanks, quotation marks and the marks of an assignment. -/
  link_chars : ∀ l, rule.IsLink l → ∀ c ∈ l, isLinkChar c = true

/-- What two rules that look for an assignment share. -/
theorem Rule.LooksForAssignment.isRegular {rule : Rule} (h : rule.LooksForAssignment)
    (hne : ∀ cue ∈ rule.cues, cue.word ≠ [])
    (hchars : ∀ cue ∈ rule.cues, cue.word.all isCueChar = true)
    (hvalue : ∀ c, isCueChar c = true → rule.isValue c = true) : rule.IsRegular := by
  have hlink : ∀ l, rule.IsLink l ↔ IsAssignment l := fun l => h.isLink_iff (hvalue 'a' (by decide))
  refine ⟨hne, hchars, hvalue, ?_, ?_, ?_⟩
  · intro s c v _ hs
    rw [h.1] at hs
    obtain ⟨l, hl, rfl⟩ := exists_isAssignment hs
    exact ⟨l, (hlink l).2 hl, rfl⟩
  · intro l hl
    obtain ⟨-, -, -, -, -⟩ := (hlink l).1 hl
    simp
  · intro l hl
    exact ((hlink l).1 hl).isLinkChar

/-- The numbers of the characters of encoded credentials. -/
theorem toNat_of_isValue_registryRule {c : Char} (h : registryRule.isValue c = true) :
    (48 ≤ c.toNat ∧ c.toNat ≤ 57) ∨ (65 ≤ c.toNat ∧ c.toNat ≤ 90) ∨
      (97 ≤ c.toNat ∧ c.toNat ≤ 122) ∨ c.toNat = 95 ∨ c.toNat = 45 ∨ c.toNat = 43 ∨
      c.toNat = 47 ∨ c.toNat = 61 := by
  simp only [registryRule, Char.isAlphanum, Bool.or_eq_true, isAlpha_iff, beq_iff_eq] at h
  rcases h with (((((h | h) | rfl) | rfl) | rfl) | rfl) | rfl
  · omega
  · exact .inl (Char.isDigit_iff_toNat.1 h)
  all_goals decide

/-- A character that ends the value of a name that sounds secret. -/
theorem isValue_assignmentRule_eq_true_iff (c : Char) : assignmentRule.isValue c = true ↔
    Text.isBlank c = false ∧ c ≠ '"' ∧ c ≠ Char.ofNat 0x27 ∧ c ≠ ',' ∧ c ≠ Char.ofNat 0x7B ∧
      c ≠ Char.ofNat 0x7D := by
  simp only [assignmentRule, Bool.not_eq_true', Bool.or_eq_false_iff, beq_eq_false_iff_ne,
    ne_eq, and_assoc]

/-- A letter or a hyphen is part of every sort of value. -/
theorem isValue_of_isCueChar {c : Char} (h : isCueChar c = true) :
    bearerRule.isValue c = true ∧ registryRule.isValue c = true ∧
      assignmentRule.isValue c = true := by
  have hblank : Text.isBlank c = false := by
    rw [← Bool.not_eq_true]
    intro hb
    have hnat := toNat_of_isBlank hb
    rw [isCueChar_iff] at h
    omega
  refine ⟨by simp [bearerRule, hblank], ?_, ?_⟩
  · simp only [isCueChar, Bool.or_eq_true] at h
    rcases h with h | h <;> simp [registryRule, Char.isAlphanum, h]
  · rw [isValue_assignmentRule_eq_true_iff]
    refine ⟨hblank, ?_, ?_, ?_, ?_, ?_⟩ <;> (rintro rfl; exact absurd h (by decide))

/-- The rule for bearer tokens is regular. -/
theorem isRegular_bearerRule : bearerRule.IsRegular := by
  refine ⟨by decide, by decide, fun c hc => (isValue_of_isCueChar hc).1, ?_, ?_, ?_⟩
  · intro s c v _ hs
    obtain ⟨l, hne, hl, rfl⟩ := exists_blanks_of_afterBlanks hs
    exact ⟨l, isLink_bearer_iff.2 ⟨hne, hl⟩, rfl⟩
  · intro l hl
    exact (isLink_bearer_iff.1 hl).1
  · intro l hl c hc
    simp [isLinkChar, (isLink_bearer_iff.1 hl).2 c hc]

/-- The rule for encoded credentials looks for an assignment. -/
theorem looksForAssignment_registryRule : registryRule.LooksForAssignment := by
  refine ⟨rfl, fun c hc => ⟨?_, ?_, ?_⟩⟩
  · rw [← Bool.not_eq_true]
    intro hb
    have hblank := toNat_of_isBlank hb
    have hvalue := toNat_of_isValue_registryRule hc
    omega
  · rintro rfl
    exact absurd hc (by decide)
  · rintro rfl
    exact absurd hc (by decide)

/-- The rule for names that sound secret looks for an assignment. -/
theorem looksForAssignment_assignmentRule : assignmentRule.LooksForAssignment := by
  refine ⟨rfl, fun c hc => ?_⟩
  obtain ⟨hblank, hdouble, hsingle, -⟩ := (isValue_assignmentRule_eq_true_iff c).1 hc
  exact ⟨hblank, hdouble, hsingle⟩

/-- The rule for encoded credentials is regular. -/
theorem isRegular_registryRule : registryRule.IsRegular :=
  looksForAssignment_registryRule.isRegular (by decide) (by decide)
    fun _ hc => (isValue_of_isCueChar hc).2.1

/-- The rule for names that sound secret is regular. -/
theorem isRegular_assignmentRule : assignmentRule.IsRegular :=
  looksForAssignment_assignmentRule.isRegular (by decide) (by decide)
    fun _ hc => (isValue_of_isCueChar hc).2.2

/-! ### Seeing a value -/

/-- A word and a link that announce a secret where `before` precedes them. -/
structure Rule.Announces (rule : Rule) (before : Option Char) (word link : List Char) : Prop where
  cue : ∃ cue ∈ rule.cues, word.map Text.asciiLower = cue.word ∧
    (cue.alone = true → isOutside before = true ∧ isOutside link.head? = true)
  link : rule.IsLink link

/-- A word at the front, in any letter cases, and what follows it. -/
theorem dropAnyCase?_eq_some_iff {word s rest : List Char} :
    Text.dropAnyCase? word s = some rest ↔
      ∃ w, s = w ++ rest ∧ w.map Text.asciiLower = word := by
  induction word generalizing s with
  | nil => simp [Text.dropAnyCase?]
  | cons c word ih =>
    cases s with
    | nil => simp [Text.dropAnyCase?]
    | cons d s =>
      rw [Text.dropAnyCase?]
      constructor
      · intro h
        split at h
        · rename_i hd
          obtain ⟨w, rfl, rfl⟩ := ih.1 h
          exact ⟨d :: w, rfl, by rw [List.map_cons, hd]⟩
        · exact absurd h (by simp)
      · rintro ⟨w, hs, hw⟩
        cases w with
        | nil => exact absurd hw (by simp)
        | cons e w =>
          obtain ⟨rfl, rfl⟩ := List.cons.inj hs
          obtain ⟨hd, hw⟩ := List.cons.inj hw
          rw [if_pos hd]
          exact ih.2 ⟨w, rfl, hw⟩

/-- What follows a cue at the front. -/
theorem Cue.after?_eq_some_iff {cue : Cue} {before : Option Char} {s rest : List Char} :
    cue.after? before s = some rest ↔ ∃ w, s = w ++ rest ∧ w.map Text.asciiLower = cue.word ∧
      (cue.alone = true → isOutside before = true ∧ isOutside rest.head? = true) := by
  rw [Cue.after?]
  constructor
  · intro h
    split at h
    · rename_i rest' hrest
      split at h
      · exact absurd h (by simp)
      · rename_i halone
        obtain rfl := Option.some.inj h
        obtain ⟨w, hs, hw⟩ := dropAnyCase?_eq_some_iff.1 hrest
        exact ⟨w, hs, hw, by simpa using halone⟩
    · exact absurd h (by simp)
  · rintro ⟨w, hs, hw, halone⟩
    rw [dropAnyCase?_eq_some_iff.2 ⟨w, hs, hw⟩]
    show (if _ then none else some rest) = some rest
    rw [if_neg]
    simpa using halone

section Regular

variable {rule : Rule} (hrule : rule.IsRegular) {before : Option Char}

include hrule

/-- The word of an announcement is made of letters and hyphens. -/
theorem Rule.IsRegular.isCueChar_of_mem {word link : List Char}
    (h : rule.Announces before word link) : word ≠ [] ∧ ∀ c ∈ word, isCueChar c = true := by
  obtain ⟨cue, hcue, hword, -⟩ := h.cue
  refine ⟨?_, fun c hc => ?_⟩
  · rintro rfl
    exact hrule.word_ne_nil cue hcue hword.symm
  · have hmem : Text.asciiLower c ∈ cue.word := hword ▸ List.mem_map_of_mem hc
    exact isCueChar_of_asciiLower rfl (List.all_eq_true.1 (hrule.word_chars cue hcue) _ hmem)

/-- A word and a link at the front of a text are found again: the word goes as far as there are
    letters and hyphens, and the link as far as it can. -/
theorem Rule.IsRegular.front_unique {word link word' link' : List Char} {c c' : Char}
    {s s' : List Char} (hword : ∀ d ∈ word, isCueChar d = true)
    (hword' : ∀ d ∈ word', isCueChar d = true) (hlink : rule.IsLink link)
    (hlink' : rule.IsLink link') (hc : rule.isValue c = true ∨ c = '*')
    (hc' : rule.isValue c' = true ∨ c' = '*')
    (heq : word ++ (link ++ c :: s) = word' ++ (link' ++ c' :: s')) :
    word = word' ∧ link = link' ∧ c :: s = c' :: s' := by
  have htake : ∀ w l v, (∀ d ∈ w, isCueChar d = true) → rule.IsLink l →
      (w ++ (l ++ v)).takeWhile isCueChar = w := by
    intro w l v hw hl
    obtain ⟨d, l, rfl⟩ := List.exists_cons_of_ne_nil (hrule.link_ne_nil l hl)
    have hd : isCueChar d = false :=
      isCueChar_eq_false (hrule.link_chars _ hl d List.mem_cons_self)
    rw [List.takeWhile_append_of_pos hw, List.cons_append,
      List.takeWhile_cons_of_neg (by simp [hd]), List.append_nil]
  have hsame : word = word' := by
    rw [← htake word link _ hword hlink, heq, htake word' link' _ hword' hlink']
  subst hsame
  have hrest := List.append_cancel_left heq
  have hfound := hlink c s hc
  rw [hrest, hlink' c' s' hc'] at hfound
  have hv := Option.some.inj hfound
  rw [hv] at hrest
  exact ⟨rfl, List.append_cancel_right hrest, hv.symm⟩

/-- A rule sees a value exactly behind an announcement. -/
theorem Rule.IsRegular.valueAt?_eq_some_iff {s v : List Char} :
    rule.valueAt? before s = some v ↔
      ∃ word link c t, v = c :: t ∧ rule.isValue c = true ∧ rule.Announces before word link ∧
        s = word ++ (link ++ v) := by
  -- some cue leads to what is seen, and then what it leads to has been announced
  have hseen : ∀ v, rule.valueAt? before s = some v →
      ∃ word link c t, v = c :: t ∧ rule.isValue c = true ∧ rule.Announces before word link ∧
        s = word ++ (link ++ v) := by
    intro v h
    obtain ⟨cue, hmem, h⟩ := List.exists_of_findSome?_eq_some h
    split at h
    · rename_i c value hafter
      split at h
      · rename_i hc
        obtain rfl := Option.some.inj h
        obtain ⟨rest, hrest, hlink⟩ := Option.bind_eq_some_iff.1 hafter
        obtain ⟨w, rfl, hw, halone⟩ := Cue.after?_eq_some_iff.1 hrest
        obtain ⟨l, hl, rfl⟩ := hrule.exists_link rest c value hc hlink
        refine ⟨w, l, c, value, rfl, hc, ⟨⟨cue, hmem, hw, fun ha => ?_⟩, hl⟩, rfl⟩
        obtain ⟨d, l, rfl⟩ := List.exists_cons_of_ne_nil (hrule.link_ne_nil l hl)
        exact halone ha
      · exact absurd h (by simp)
    · exact absurd h (by simp)
  constructor
  · exact hseen v
  · rintro ⟨word, link, c, t, rfl, hc, hann, hs⟩
    -- something is seen, and the announcement of what is seen is this one
    have hsome : (rule.valueAt? before s).isSome = true := by
      obtain ⟨cue, hmem, hword, halone⟩ := hann.cue
      obtain ⟨d, l, rfl⟩ := List.exists_cons_of_ne_nil (hrule.link_ne_nil link hann.link)
      have hafter : cue.after? before s = some (d :: l ++ c :: t) :=
        Cue.after?_eq_some_iff.2 ⟨word, hs, hword, halone⟩
      rw [Rule.valueAt?, List.findSome?_isSome_iff]
      refine ⟨cue, hmem, ?_⟩
      rw [hafter, Option.bind_some, hann.link c t (.inl hc)]
      simp [hc]
    obtain ⟨v', hv'⟩ := Option.isSome_iff_exists.1 hsome
    obtain ⟨word', link', c', t', rfl, hc', hann', hs'⟩ := hseen v' hv'
    obtain ⟨-, -, heq⟩ := hrule.front_unique (hrule.isCueChar_of_mem hann).2
      (hrule.isCueChar_of_mem hann').2 hann.link hann'.link (.inl hc) (.inl hc') (hs ▸ hs')
    rw [hv', heq]

end Regular

end ImageBuild.Log
