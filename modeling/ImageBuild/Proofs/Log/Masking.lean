import ImageBuild.Proofs.Log.Announcement
import ImageBuild.Proofs.Text.Split

namespace ImageBuild.Log

/-!
# Masking — what a rule makes of a text, piece by piece

A text is passed over character by character until there is an announcement; then the secret behind
it gives way to four stars.

* `maskFrom_of_none`, `Rule.IsRegular.maskFrom_announced` — the two steps.
* `Rule.IsRegular.mask_induction` — induction along them.
* `Rule.IsRegular.maskFrom_append` — a piece in which nothing is announced is passed over at once.
* `Rule.Stands` — how far a rule has come in a text and in what it makes of it.  A character that is
  no star, and a piece without stars, are passed over in both (`Rule.IsRegular.stands_cons_of_ne`,
  `Rule.IsRegular.stands_append_of_notMem`); where a letter stands in the masked text, there it
  stands in the text as well (`Rule.IsRegular.stands_of_cueChar`).
-/

/-- Characters that belong to a value. -/
structure Rule.IsSecret (rule : Rule) (secret : List Char) : Prop where
  ne_nil : secret ≠ []
  isValue : ∀ c ∈ secret, rule.isValue c = true

/-- A text that does not go on with a value. -/
def Rule.Ends (rule : Rule) (rest : List Char) : Prop :=
  ∀ c ∈ rest.head?, rule.isValue c = false

section Regular

variable {rule : Rule}

/-- A value goes as far as it can. -/
theorem takeWhile_isValue {secret rest : List Char} (hsecret : rule.IsSecret secret)
    (hrest : rule.Ends rest) :
    (secret ++ rest).takeWhile rule.isValue = secret ∧
      (secret ++ rest).dropWhile rule.isValue = rest := by
  rw [List.takeWhile_append_of_pos hsecret.isValue, List.dropWhile_append_of_pos hsecret.isValue]
  cases rest with
  | nil => simp
  | cons c rest =>
    have hc : rule.isValue c = false := hrest c rfl
    simp [hc]

/-- A value ends where there are no more of its characters. -/
theorem ends_dropWhile (s : List Char) : rule.Ends (s.dropWhile rule.isValue) := by
  intro c hc
  have hnot := List.head?_dropWhile_not rule.isValue s
  rw [hc] at hnot
  exact hnot

/-- A text that begins with a value is a secret and what ends it. -/
theorem exists_secret {c : Char} (hc : rule.isValue c = true) (s : List Char) :
    ∃ secret rest, c :: s = secret ++ rest ∧ rule.IsSecret secret ∧ rule.Ends rest := by
  refine ⟨(c :: s).takeWhile rule.isValue, (c :: s).dropWhile rule.isValue,
    List.takeWhile_append_dropWhile.symm, ⟨?_, fun d hd => List.mem_takeWhile_imp hd⟩,
    ends_dropWhile (c :: s)⟩
  simp [hc]

/-- Nothing is made of nothing. -/
theorem maskFrom_nil (n : Nat) (before : Option Char) : rule.maskFrom n before [] = [] := by
  cases n <;> rfl

/-- Where there is no value, a character stays. -/
theorem maskFrom_of_none {before : Option Char} {c : Char} {s : List Char}
    (h : rule.valueAt? before (c :: s) = none) :
    rule.maskFrom 0 before (c :: s) = c :: rule.maskFrom 0 (some c) s := by
  rw [Rule.maskFrom, h]

/-- The last character of a text behind another one. -/
theorem getLast?_cons_or (c : Char) (s : List Char) (before : Option Char) :
    (c :: s).getLast?.or before = s.getLast?.or (some c) := by
  rw [List.getLast?_cons]
  cases s.getLast? <;> rfl

/-- What has been written already is passed over. -/
theorem maskFrom_skip (u s : List Char) (before : Option Char) :
    rule.maskFrom u.length before (u ++ s) = rule.maskFrom 0 (u.getLast?.or before) s := by
  induction u generalizing before with
  | nil => rfl
  | cons c u ih =>
    show rule.maskFrom u.length (some c) (u ++ s) = _
    rw [ih, getLast?_cons_or]

variable (hrule : rule.IsRegular)

include hrule

/-- Rules whose words need not stand alone do not look at what precedes a text. -/
theorem Rule.IsRegular.maskFrom_before (halone : ∀ cue ∈ rule.cues, cue.alone = false)
    (before before' : Option Char) (s : List Char) :
    rule.maskFrom 0 before s = rule.maskFrom 0 before' s := by
  have hann : ∀ {before before' : Option Char} {word link : List Char},
      rule.Announces before word link → rule.Announces before' word link := by
    rintro _ _ word link ⟨⟨cue, hcue, hword, -⟩, hlink⟩
    refine ⟨⟨cue, hcue, hword, fun h => ?_⟩, hlink⟩
    rw [halone cue hcue] at h
    exact absurd h (by decide)
  cases s with
  | nil => rfl
  | cons c s =>
    have hvalue : rule.valueAt? before (c :: s) = rule.valueAt? before' (c :: s) := by
      apply Option.ext
      intro v
      rw [hrule.valueAt?_eq_some_iff, hrule.valueAt?_eq_some_iff]
      constructor
      · rintro ⟨word, link, d, t, hv, hd, h, hs⟩
        exact ⟨word, link, d, t, hv, hd, hann h, hs⟩
      · rintro ⟨word, link, d, t, hv, hd, h, hs⟩
        exact ⟨word, link, d, t, hv, hd, hann h, hs⟩
    rw [Rule.maskFrom, Rule.maskFrom, hvalue]

/-- A secret gives way to stars. -/
theorem Rule.IsRegular.maskFrom_announced {before : Option Char} {word link secret rest : List Char}
    (hann : rule.Announces before word link) (hsecret : rule.IsSecret secret)
    (hrest : rule.Ends rest) :
    rule.maskFrom 0 before (word ++ (link ++ (secret ++ rest))) =
      word ++ (link ++ (stars ++ rule.maskFrom 0 secret.getLast? rest)) := by
  obtain ⟨c, word', rfl⟩ := List.exists_cons_of_ne_nil (hrule.isCueChar_of_mem hann).1
  obtain ⟨d, secret', rfl⟩ := List.exists_cons_of_ne_nil hsecret.ne_nil
  have hvalue : rule.valueAt? before (c :: (word' ++ (link ++ (d :: secret' ++ rest)))) =
      some (d :: secret' ++ rest) :=
    hrule.valueAt?_eq_some_iff.2
      ⟨_, link, d, secret' ++ rest, rfl, hsecret.isValue d List.mem_cons_self, hann, rfl⟩
  -- what is kept, and what has been passed over when the rule looks at the text again
  have hkept : (c :: (word' ++ (link ++ (d :: secret' ++ rest)))).take
      ((c :: (word' ++ (link ++ (d :: secret' ++ rest)))).length - (d :: secret' ++ rest).length) =
        c :: word' ++ link := by
    have hassoc : c :: (word' ++ (link ++ (d :: secret' ++ rest))) =
        (c :: word' ++ link) ++ (d :: secret' ++ rest) := by simp
    rw [hassoc, @List.length_append _ (c :: word' ++ link), Nat.add_sub_cancel, List.take_left]
  have hskipped : (c :: word' ++ link).length + (d :: secret').length - 1 =
      (word' ++ (link ++ d :: secret')).length := by
    simp only [List.length_append, List.length_cons]
    omega
  show rule.maskFrom 0 before (c :: (word' ++ (link ++ (d :: secret' ++ rest)))) = _
  rw [Rule.maskFrom, hvalue]
  dsimp only
  rw [hkept, (takeWhile_isValue hsecret hrest).1, hskipped]
  have htail : word' ++ (link ++ (d :: secret' ++ rest)) =
      (word' ++ (link ++ d :: secret')) ++ rest := by simp
  rw [htail, maskFrom_skip]
  simp [List.getLast?_append, List.getLast?_cons]

/-- A text is nothing, or its first character stays, or it begins with a secret and what announces
    it. -/
theorem Rule.IsRegular.mask_cases (before : Option Char) (s : List Char) :
    s = [] ∨ (∃ c t, s = c :: t ∧ rule.valueAt? before (c :: t) = none) ∨
      ∃ word link secret rest, s = word ++ (link ++ (secret ++ rest)) ∧
        rule.Announces before word link ∧ rule.IsSecret secret ∧ rule.Ends rest := by
  cases s with
  | nil => exact .inl rfl
  | cons c t =>
    cases hv : rule.valueAt? before (c :: t) with
    | none => exact .inr (.inl ⟨c, t, rfl, hv⟩)
    | some v =>
      obtain ⟨word, link, d, u, rfl, hd, hann, hs⟩ := hrule.valueAt?_eq_some_iff.1 hv
      obtain ⟨secret, rest, hparted, hsecret, hrest⟩ := exists_secret hd u
      rw [hparted] at hs
      exact .inr (.inr ⟨word, link, secret, rest, hs, hann, hsecret, hrest⟩)

/-- What holds of nothing, and is kept by both steps of masking, holds of every text. -/
theorem Rule.IsRegular.mask_induction {motive : Option Char → List Char → Prop}
    (nil : ∀ before, motive before [])
    (keep : ∀ before c s, rule.valueAt? before (c :: s) = none → motive (some c) s →
      motive before (c :: s))
    (hide : ∀ before word link secret rest, rule.Announces before word link →
      rule.IsSecret secret → rule.Ends rest → motive secret.getLast? rest →
      motive before (word ++ (link ++ (secret ++ rest))))
    (before : Option Char) (s : List Char) : motive before s := by
  -- on the length, as a secret is passed over in one step
  induction hn : s.length using Nat.strong_induction_on generalizing before s with
  | _ n ih =>
    obtain rfl | ⟨c, t, rfl, hv⟩ | ⟨word, link, secret, rest, rfl, hann, hsecret, hrest⟩ :=
      hrule.mask_cases before s
    · exact nil before
    · exact keep before c t hv (ih t.length (by rw [← hn, List.length_cons]; omega) _ _ rfl)
    · refine hide before word link secret rest hann hsecret hrest (ih rest.length ?_ _ _ rfl)
      have hpos : 0 < secret.length := List.length_pos_iff.2 hsecret.ne_nil
      simp only [List.length_append] at hn
      omega

/-- The first character always stays. -/
theorem Rule.IsRegular.head?_maskFrom (before : Option Char) (s : List Char) :
    (rule.maskFrom 0 before s).head? = s.head? := by
  obtain rfl | ⟨c, t, rfl, hv⟩ | ⟨word, link, secret, rest, rfl, hann, hsecret, hrest⟩ :=
    hrule.mask_cases before s
  · rw [maskFrom_nil]
  · rw [maskFrom_of_none hv]
    rfl
  · obtain ⟨c, word, rfl⟩ := List.exists_cons_of_ne_nil (hrule.isCueChar_of_mem hann).1
    rw [hrule.maskFrom_announced hann hsecret hrest]
    rfl

/-- What is no part of values stays. -/
theorem Rule.IsRegular.filter_maskFrom {P : Char → Bool}
    (hP : ∀ c, rule.isValue c = true → P c = false) (hstar : P '*' = false)
    (before : Option Char) (s : List Char) : (rule.maskFrom 0 before s).filter P = s.filter P := by
  have hnone : ∀ u : List Char, (∀ c ∈ u, P c = false) → u.filter P = [] := by
    intro u hu
    rw [List.filter_eq_nil_iff]
    intro c hc
    simp [hu c hc]
  induction before, s using hrule.mask_induction with
  | nil before => rw [maskFrom_nil]
  | keep before c s hv ih =>
    rw [maskFrom_of_none hv, List.filter_cons, List.filter_cons, ih]
  | hide before word link secret rest hann hsecret hrest ih =>
    have hstars : stars.filter P = [] := hnone stars fun c hc => by
      rwa [List.eq_of_mem_replicate (n := 4) hc]
    have hgone : secret.filter P = [] := hnone secret fun c hc => hP c (hsecret.isValue c hc)
    rw [hrule.maskFrom_announced hann hsecret hrest]
    simp only [List.filter_append, hstars, hgone, ih]

/-- A rule sees nothing exactly where no value is announced. -/
theorem Rule.IsRegular.valueAt?_eq_none_iff {before : Option Char} {s : List Char} :
    rule.valueAt? before s = none ↔ ∀ word link c v, rule.Announces before word link →
      rule.isValue c = true → s ≠ word ++ (link ++ c :: v) := by
  rw [Option.eq_none_iff_forall_ne_some]
  constructor
  · intro h word link c v hann hc hs
    exact h (c :: v) (hrule.valueAt?_eq_some_iff.2 ⟨word, link, c, v, rfl, hc, hann, hs⟩)
  · intro h v hv
    obtain ⟨word, link, c, t, rfl, hc, hann, hs⟩ := hrule.valueAt?_eq_some_iff.1 hv
    exact h word link c t hann hc hs

/-- Nothing is announced by a character that is no part of words. -/
theorem Rule.IsRegular.valueAt?_cons_eq_none {before : Option Char} {c : Char}
    (hc : isCueChar c = false) (s : List Char) : rule.valueAt? before (c :: s) = none := by
  rw [hrule.valueAt?_eq_none_iff]
  intro word link d v hann _ hs
  obtain ⟨hne, hchars⟩ := hrule.isCueChar_of_mem hann
  obtain ⟨e, word, rfl⟩ := List.exists_cons_of_ne_nil hne
  obtain ⟨rfl, -⟩ := List.cons.inj hs
  rw [hchars c List.mem_cons_self] at hc
  exact absurd hc (by decide)

/-- A piece in which no announcement begins is kept. -/
theorem Rule.IsRegular.maskFrom_append {u s : List Char} {before : Option Char}
    (h : ∀ front x word link v, u = front ++ x → x ≠ [] →
      rule.Announces (front.getLast?.or before) word link → x ++ s ≠ word ++ (link ++ v)) :
    rule.maskFrom 0 before (u ++ s) = u ++ rule.maskFrom 0 (u.getLast?.or before) s := by
  induction u generalizing before with
  | nil => rfl
  | cons c u ih =>
    have hnone : rule.valueAt? before (c :: (u ++ s)) = none := by
      rw [hrule.valueAt?_eq_none_iff]
      intro word link d v hann _
      exact h [] (c :: u) word link (d :: v) rfl (by simp) hann
    have hrest : rule.maskFrom 0 (some c) (u ++ s) =
        u ++ rule.maskFrom 0 (u.getLast?.or (some c)) s := by
      apply ih
      intro front x word link v hu hx hann
      rw [← getLast?_cons_or c front before] at hann
      exact h (c :: front) x word link v (by rw [hu]; rfl) hx hann
    rw [List.cons_append, maskFrom_of_none hnone, hrest, getLast?_cons_or]
    rfl

/-- A piece without the letter that the words of a rule begin with is kept. -/
theorem Rule.IsRegular.maskFrom_of_ne {first : Char}
    (hfirst : ∀ cue ∈ rule.cues, cue.word.head? = some first) {u : List Char}
    (hu : ∀ c ∈ u, Text.asciiLower c ≠ first) (before : Option Char) (s : List Char) :
    rule.maskFrom 0 before (u ++ s) = u ++ rule.maskFrom 0 (u.getLast?.or before) s := by
  apply hrule.maskFrom_append
  intro front x word link v hparted hx hann hx'
  obtain ⟨cue, hcue, hword, -⟩ := hann.cue
  obtain ⟨d, x, rfl⟩ := List.exists_cons_of_ne_nil hx
  obtain ⟨e, word, rfl⟩ := List.exists_cons_of_ne_nil (hrule.isCueChar_of_mem hann).1
  obtain ⟨rfl, -⟩ := List.cons.inj hx'
  have hhead := hfirst cue hcue
  rw [← hword] at hhead
  exact hu d (by rw [hparted]; simp) (Option.some.inj hhead)

/-- There are no stars in an announcement. -/
theorem Rule.IsRegular.star_notMem {before : Option Char} {word link : List Char}
    (hann : rule.Announces before word link) : '*' ∉ word ++ link := by
  rw [List.mem_append]
  rintro (h | h)
  · exact absurd ((hrule.isCueChar_of_mem hann).2 _ h) (by decide)
  · exact absurd (hrule.link_chars link hann.link _ h) (by decide)

end Regular

/-! ### A text beside what is made of it -/

/-- How a rule stands that has passed over `past`: what is left of the text, and what is left to be
    made of it. -/
inductive Rule.Stands (rule : Rule) (past y z : List Char) : Prop
  /-- Between two announcements. -/
  | free (hz : z = rule.maskFrom 0 past.getLast? y)
  /-- Within an announcement. -/
  | announced {front x x' word link secret rest : List Char}
    (hann : rule.Announces front.getLast? word link) (hparted : x ++ x' = word ++ link)
    (hsecret : rule.IsSecret secret) (hrest : rule.Ends rest) (hpast : past = front ++ x)
    (hy : y = x' ++ (secret ++ rest))
    (hz : z = x' ++ (stars ++ rule.maskFrom 0 secret.getLast? rest))

section Stands

variable {rule : Rule} (hrule : rule.IsRegular) {past y z : List Char}

include hrule

/-- A character that is no star has been kept. -/
theorem Rule.IsRegular.stands_cons_of_ne {c : Char} (hc : c ≠ '*')
    (h : rule.Stands past y (c :: z)) : ∃ y', y = c :: y' ∧ rule.Stands (past ++ [c]) y' z := by
  cases h with
  | free hz =>
    obtain rfl | ⟨d, t, rfl, hv⟩ | ⟨word, link, secret, rest, rfl, hann, hsecret, hrest⟩ :=
      hrule.mask_cases past.getLast? y
    · rw [maskFrom_nil] at hz
      exact absurd hz (by simp)
    · rw [maskFrom_of_none hv] at hz
      obtain ⟨rfl, rfl⟩ := List.cons.inj hz
      exact ⟨t, rfl, .free (by simp)⟩
    · obtain ⟨d, word', rfl⟩ := List.exists_cons_of_ne_nil (hrule.isCueChar_of_mem hann).1
      rw [hrule.maskFrom_announced hann hsecret hrest] at hz
      obtain ⟨rfl, rfl⟩ := List.cons.inj hz
      have hparted : [c] ++ (word' ++ link) = c :: word' ++ link := rfl
      exact ⟨_, rfl, .announced hann hparted hsecret hrest rfl (List.append_assoc ..).symm
        (List.append_assoc ..).symm⟩
  | @announced front x x' word link secret rest hann hparted hsecret hrest hpast hy hz =>
    cases x' with
    | nil =>
      obtain ⟨rfl, -⟩ := List.cons.inj hz
      exact absurd rfl hc
    | cons d x' =>
      obtain ⟨rfl, rfl⟩ := List.cons.inj hz
      have hparted' : (x ++ [c]) ++ x' = word ++ link := by
        rw [← hparted, List.append_assoc]
        rfl
      have hpast' : past ++ [c] = front ++ (x ++ [c]) := by rw [hpast, List.append_assoc]
      exact ⟨_, hy, .announced hann hparted' hsecret hrest hpast' rfl rfl⟩

/-- A piece without stars has been kept. -/
theorem Rule.IsRegular.stands_append_of_notMem {a : List Char} (ha : '*' ∉ a)
    (h : rule.Stands past y (a ++ z)) : ∃ y', y = a ++ y' ∧ rule.Stands (past ++ a) y' z := by
  induction a generalizing past y with
  | nil => exact ⟨y, rfl, by rwa [List.append_nil]⟩
  | cons c a ih =>
    rw [List.mem_cons, not_or] at ha
    obtain ⟨y, rfl, hstep⟩ := hrule.stands_cons_of_ne (Ne.symm ha.1) h
    obtain ⟨y, rfl, hrest⟩ := ih ha.2 hstep
    refine ⟨y, rfl, ?_⟩
    rwa [List.append_assoc] at hrest

/-- A star has been kept, or it is the first that stands for a secret. -/
theorem Rule.IsRegular.stands_cons_star (h : rule.Stands past y ('*' :: z)) :
    (∃ y', y = '*' :: y' ∧ rule.Stands (past ++ ['*']) y' z) ∨
      ∃ secret rest, y = secret ++ rest ∧ rule.IsSecret secret ∧ rule.Ends rest ∧
        '*' :: z = stars ++ rule.maskFrom 0 secret.getLast? rest := by
  cases h with
  | free hz =>
    cases y with
    | nil =>
      rw [maskFrom_nil] at hz
      exact absurd hz (by simp)
    | cons c t =>
      have hhead := hrule.head?_maskFrom past.getLast? (c :: t)
      rw [← hz] at hhead
      obtain rfl : '*' = c := Option.some.inj hhead
      rw [maskFrom_of_none (hrule.valueAt?_cons_eq_none (by decide) t)] at hz
      obtain ⟨-, rfl⟩ := List.cons.inj hz
      exact .inl ⟨t, rfl, .free (by simp)⟩
  | @announced front x x' word link secret rest hann hparted hsecret hrest hpast hy hz =>
    cases x' with
    | nil => exact .inr ⟨secret, rest, hy, hsecret, hrest, hz⟩
    | cons d x' =>
      obtain ⟨rfl, -⟩ := List.cons.inj hz
      have hmem : '*' ∈ word ++ link := by rw [← hparted]; simp
      exact absurd hmem (hrule.star_notMem hann)

/-- Where a letter stands in what is made of a text, there it stands in the text as well, and the
    same character precedes it. -/
theorem Rule.IsRegular.stands_of_cueChar {pre : List Char} {d : Char} (hd : isCueChar d = true)
    (h : rule.Stands past y (pre ++ d :: z)) :
    ∃ past' y', past' ++ y' = past ++ y ∧ past'.getLast? = pre.getLast?.or past.getLast? ∧
      rule.Stands past' y' (d :: z) := by
  -- on the length, as four stars are passed over in one step
  induction hn : pre.length using Nat.strong_induction_on generalizing past y pre with
  | _ n ih =>
    cases pre with
    | nil => exact ⟨past, y, rfl, rfl, h⟩
    | cons p pre =>
      -- what the rest of the way gives, behind a character that is kept
      have hkept : ∀ y', y = p :: y' → rule.Stands (past ++ [p]) y' (pre ++ d :: z) →
          ∃ past' y', past' ++ y' = past ++ y ∧
            past'.getLast? = (p :: pre).getLast?.or past.getLast? ∧
              rule.Stands past' y' (d :: z) := by
        rintro y' rfl h'
        obtain ⟨past', y'', happ, hlast, hstands⟩ := ih pre.length (by rw [← hn]; simp) h' rfl
        refine ⟨past', y'', by rw [happ, List.append_assoc]; rfl, ?_, hstands⟩
        rw [hlast, getLast?_cons_or, List.getLast?_concat]
      by_cases hp : p = '*'
      · subst hp
        obtain ⟨y', hy', h'⟩ | ⟨secret, rest, rfl, hsecret, hrest, hz⟩ := hrule.stands_cons_star h
        · exact hkept y' hy' h'
        · have hstars : ('*' :: pre) ++ d :: z = stars ++ rule.maskFrom 0 secret.getLast? rest := hz
          have hstar : d ∉ stars := by
            intro hmem
            obtain rfl := List.eq_of_mem_replicate (n := 4) hmem
            exact absurd hd (by decide)
          obtain ⟨e, hpre, hz'⟩ := Text.exists_append_of_notMem hstar hstars
          rw [hpre]
          have hlength : e.length < n := by
            rw [← hn, hpre, List.length_append]
            exact Nat.lt_add_of_pos_left (by decide)
          have hfree : rule.Stands (past ++ secret) rest (e ++ d :: z) := by
            apply Rule.Stands.free
            rw [← hz', List.getLast?_append]
            obtain ⟨s, secret, rfl⟩ := List.exists_cons_of_ne_nil hsecret.ne_nil
            simp [List.getLast?_cons]
          obtain ⟨past', y', happ, hlast, hstands⟩ := ih e.length hlength hfree rfl
          refine ⟨past', y', by rw [happ, List.append_assoc], ?_, hstands⟩
          cases e with
          | nil =>
            -- a letter right behind the secret would be part of it
            have hhead := hrule.head?_maskFrom secret.getLast? rest
            rw [hz'] at hhead
            have hout := hrest d (by rw [← hhead]; rfl)
            rw [hrule.isValue_of_cueChar d hd] at hout
            exact absurd hout (by decide)
          | cons f e =>
            rw [hlast, List.getLast?_append, List.getLast?_append, List.getLast?_cons]
            rfl
      · obtain ⟨y', hy', h'⟩ := hrule.stands_cons_of_ne hp h
        exact hkept y' hy' h'

end Stands

/-! ### Pieces without blanks -/

/-- No bearer token is announced in a piece without blanks, nor across its end when that is no
    letter. -/
theorem bearerRule_maskFrom_append {u : List Char} (hu : ∀ c ∈ u, Text.isBlank c = false)
    (hlast : ∀ c ∈ u.getLast?, isCueChar c = false) (before : Option Char) (s : List Char) :
    bearerRule.maskFrom 0 before (u ++ s) =
      u ++ bearerRule.maskFrom 0 (u.getLast?.or before) s := by
  apply isRegular_bearerRule.maskFrom_append
  intro front x word link v hx hne hann htext
  obtain ⟨-, hchars⟩ := isRegular_bearerRule.isCueChar_of_mem hann
  obtain ⟨hlink, hblank⟩ := isLink_bearer_iff.1 hann.link
  -- the last character is part of no word
  have hend : ¬ ∀ d ∈ x, isCueChar d = true := fun hall => by
    obtain ⟨init, d, rfl⟩ := (List.eq_nil_or_concat x).resolve_left hne
    have hd : isCueChar d = false := hlast d (by rw [hx]; simp)
    rw [hall d (by simp)] at hd
    exact absurd hd (by decide)
  rcases List.append_eq_append_iff.1 htext with ⟨m, rfl, -⟩ | ⟨m, rfl, hm⟩
  · exact hend fun d hd => hchars d (by simp [hd])
  · obtain ⟨b, link, rfl⟩ := List.exists_cons_of_ne_nil hlink
    cases m with
    | nil => exact hend fun d hd => hchars d (by simpa using hd)
    | cons e m =>
      -- nor is a blank part of the piece
      obtain ⟨rfl, -⟩ := List.cons.inj hm
      have hnone := hu b (by rw [hx]; simp)
      rw [hblank b List.mem_cons_self] at hnone
      exact absurd hnone (by decide)

end ImageBuild.Log
