import ImageBuild.Log.Line
import ImageBuild.Report
import ImageBuild.Proofs.Log.Masking
import ImageBuild.Proofs.Text.Split

namespace ImageBuild.Log

/-!
# Idempotence — masked texts have nothing left to mask

A text is settled for a rule when there are four stars, and no more of a value, behind everything
the rule sees announced in it.

* `Rule.IsRegular.mask_eq_self` — a settled text is left alone.
* `Rule.IsRegular.settled_mask` — a rule settles every text.
* `Rule.IsRegular.settled_mask_of_apart` — and unsettles none for a rule before it: what it makes of
  a text has no announcements but those of the text, and where a secret gives way to stars nothing
  has been announced to the other rule.
* `mask_mask` — hence masking twice is masking once, also for the lines of the log.
-/

/-- Whatever a rule sees announced is masked already. -/
def Rule.Settled (rule : Rule) (s : List Char) : Prop :=
  ∀ ⦃front word link c v⦄, s = front ++ (word ++ (link ++ c :: v)) →
    rule.Announces front.getLast? word link → rule.isValue c = true →
    ∃ rest, c :: v = stars ++ rest ∧ rule.Ends rest

/-- Announcements of two rules never end at the same place, unless stars are no value of the
    first. -/
def Rule.Apart (rule other : Rule) : Prop :=
  rule.isValue '*' = true → ∀ ⦃before word link before' word' link'⦄,
    rule.Announces before word link → other.Announces before' word' link' →
    ∀ front front', front ++ (word ++ link) ≠ front' ++ (word' ++ link')

section Regular

variable {rule : Rule} (hrule : rule.IsRegular)

include hrule

/-- Stars are no announcement. -/
theorem Rule.IsRegular.maskFrom_stars (before : Option Char) (rest : List Char) :
    rule.maskFrom 0 before (stars ++ rest) = stars ++ rule.maskFrom 0 (some '*') rest := by
  have hstar : ∀ before s, rule.maskFrom 0 before ('*' :: s) =
      '*' :: rule.maskFrom 0 (some '*') s := fun before s =>
    maskFrom_of_none (hrule.valueAt?_cons_eq_none (by decide) s)
  show rule.maskFrom 0 before ('*' :: '*' :: '*' :: '*' :: rest) = _
  rw [hstar, hstar, hstar, hstar]
  rfl

/-- What ends a value still ends it when it has been masked. -/
theorem Rule.IsRegular.ends_maskFrom {rule' : Rule} {before : Option Char} {rest : List Char}
    (h : rule'.Ends rest) : rule'.Ends (rule.maskFrom 0 before rest) := by
  intro c hc
  rw [hrule.head?_maskFrom] at hc
  exact h c hc

/-- A rule leaves what is left of a settled text alone. -/
theorem Rule.IsRegular.maskFrom_eq_self {before : Option Char} {s : List Char} (front : List Char)
    (hfront : front.getLast? = before) (h : rule.Settled (front ++ s)) :
    rule.maskFrom 0 before s = s := by
  induction before, s using hrule.mask_induction generalizing front with
  | nil before => exact maskFrom_nil 0 before
  | keep before c s hv ih =>
    rw [List.append_cons] at h
    rw [maskFrom_of_none hv, ih (front ++ [c]) (by simp) h]
  | hide before word link secret rest hann hsecret hrest ih =>
    obtain ⟨c, secret', rfl⟩ := List.exists_cons_of_ne_nil hsecret.ne_nil
    have hc : rule.isValue c = true := hsecret.isValue c List.mem_cons_self
    obtain ⟨rest', hparted, hrest'⟩ := @h front _ _ _ _ rfl (hfront ▸ hann) hc
    obtain ⟨rfl, -⟩ := List.cons.inj hparted
    -- the stars are the whole secret
    have hstars : rule.IsSecret stars := by
      refine ⟨by decide, fun d hd => ?_⟩
      rw [List.eq_of_mem_replicate (n := 4) hd]
      exact hc
    have hsame : '*' :: secret' = stars := by
      rw [← (takeWhile_isValue hsecret hrest).1, ← (takeWhile_isValue hstars hrest').1, ← hparted]
      rfl
    rw [hsame] at h ih ⊢
    have hlast : (front ++ (word ++ (link ++ stars))).getLast? = stars.getLast? := by
      simp [stars, List.getLast?_append]
    rw [hrule.maskFrom_announced hann hstars hrest, ih _ hlast (by simpa using h)]

/-- A rule leaves a settled text alone. -/
theorem Rule.IsRegular.mask_eq_self {s : List Char} (h : rule.Settled s) : rule.mask s = s :=
  hrule.maskFrom_eq_self [] rfl h

/-- How a rule stands at a word of what it has made of a text. -/
theorem Rule.IsRegular.exists_stands {s front word z : List Char} (hne : word ≠ [])
    (hchars : ∀ c ∈ word, isCueChar c = true) (hmask : rule.mask s = front ++ (word ++ z)) :
    ∃ past y, past ++ y = s ∧ past.getLast? = front.getLast? ∧ rule.Stands past y (word ++ z) := by
  obtain ⟨d, word, rfl⟩ := List.exists_cons_of_ne_nil hne
  have hstart : rule.Stands [] s (front ++ d :: (word ++ z)) := .free hmask.symm
  obtain ⟨past, y, happ, hlast, hstands⟩ :=
    hrule.stands_of_cueChar (hchars d List.mem_cons_self) hstart
  refine ⟨past, y, happ, ?_, hstands⟩
  rw [hlast]
  exact Option.or_none

/-- Where a text has been kept up to a value, it goes on with a value itself. -/
theorem Rule.IsRegular.exists_value {past y v : List Char} {c : Char} (hc : rule.isValue c = true)
    (h : rule.Stands past y (c :: v)) : ∃ d t, y = d :: t ∧ rule.isValue d = true := by
  rcases h with hz | @⟨front, x, x', word, link, secret, rest, -, -, hsecret, -, -, rfl, hz⟩
  · have hhead := hrule.head?_maskFrom past.getLast? y
    rw [← hz] at hhead
    obtain ⟨t, rfl⟩ := List.head?_eq_some_iff.1 hhead.symm
    exact ⟨c, t, rfl, hc⟩
  · cases x' with
    | nil =>
      obtain ⟨d, secret, rfl⟩ := List.exists_cons_of_ne_nil hsecret.ne_nil
      exact ⟨d, secret ++ rest, rfl, hsecret.isValue d List.mem_cons_self⟩
    | cons d x' =>
      obtain ⟨rfl, -⟩ := List.cons.inj hz
      exact ⟨c, _, rfl, hc⟩

/-- What a rule has made of a text is settled. -/
theorem Rule.IsRegular.settled_mask (s : List Char) : rule.Settled (rule.mask s) := by
  intro front word link c v hmask hann hc
  obtain ⟨hne, hchars⟩ := hrule.isCueChar_of_mem hann
  obtain ⟨past, y, -, hlast, hstands⟩ := hrule.exists_stands hne hchars hmask
  rw [← hlast] at hann
  cases hstands with
  | free hz =>
    -- the announcement is one of the text, so that the secret behind it has been masked
    have hfree : rule.Stands past y (word ++ link ++ c :: v) := by
      apply Rule.Stands.free
      rw [← hz, List.append_assoc]
    obtain ⟨y', rfl, hbehind⟩ := hrule.stands_append_of_notMem (hrule.star_notMem hann) hfree
    obtain ⟨d, t, rfl, hd⟩ := hrule.exists_value hc hbehind
    obtain ⟨secret, rest, hparted, hsecret, hrest⟩ := exists_secret hd t
    rw [hparted, List.append_assoc, hrule.maskFrom_announced hann hsecret hrest] at hz
    have hv := List.append_cancel_left (List.append_cancel_left hz)
    exact ⟨_, hv, hrule.ends_maskFrom hrest⟩
  | @announced front' x x' word' link' secret rest hann' hparted hsecret hrest hpast hy hz =>
    -- the word is the end of one whose secret is being masked
    obtain ⟨d, word, rfl⟩ := List.exists_cons_of_ne_nil hne
    have hd : isCueChar d = true := hchars d List.mem_cons_self
    rcases List.append_eq_append_iff.1 hparted with ⟨m, hword', rfl⟩ | ⟨m, hx, hlink'⟩
    · have hm : ∀ e ∈ m, isCueChar e = true := fun e he =>
        (hrule.isCueChar_of_mem hann').2 e (by rw [hword']; simp [he])
      have heq : d :: word ++ (link ++ c :: v) =
          m ++ (link' ++ '*' :: ('*' :: '*' :: '*' :: rule.maskFrom 0 secret.getLast? rest)) := by
        rw [hz, List.append_assoc]
        rfl
      obtain ⟨-, -, hv⟩ :=
        hrule.front_unique hchars hm hann.link hann'.link (.inl hc) (.inr rfl) heq
      exact ⟨_, hv, hrule.ends_maskFrom hrest⟩
    · -- no letter stands in a link, nor is it a star
      cases x' with
      | nil =>
        obtain ⟨rfl, -⟩ := List.cons.inj hz
        exact absurd hd (by decide)
      | cons e x' =>
        obtain ⟨rfl, -⟩ := List.cons.inj hz
        have hmem : d ∈ link' := by rw [hlink']; simp
        rw [isCueChar_eq_false (hrule.link_chars link' hann'.link d hmem)] at hd
        exact absurd hd (by decide)

/-- A rule leaves what another rule has settled settled, if their announcements are apart. -/
theorem Rule.IsRegular.settled_mask_of_apart {rule' : Rule} (hrule' : rule'.IsRegular)
    (hapart : rule'.Apart rule) {s : List Char} (h : rule'.Settled s) :
    rule'.Settled (rule.mask s) := by
  intro front word link c v hmask hann hc
  obtain ⟨hne, hchars⟩ := hrule'.isCueChar_of_mem hann
  obtain ⟨past, y, rfl, hlast, hstands⟩ := hrule.exists_stands hne hchars hmask
  rw [← hlast] at hann
  rw [← List.append_assoc] at hstands
  obtain ⟨y, rfl, hbehind⟩ := hrule.stands_append_of_notMem (hrule'.star_notMem hann) hstands
  -- where the text goes on with the same value, the value is stars
  have hsettled : ∀ t, y = c :: t → ∃ rest, y = stars ++ rest ∧ rule'.Ends rest := by
    rintro t rfl
    exact @h past _ _ _ _ (by rw [List.append_assoc]) hann hc
  cases hbehind with
  | free hz =>
    have hhead := hrule.head?_maskFrom (past ++ (word ++ link)).getLast? y
    rw [← hz] at hhead
    obtain ⟨t, ht⟩ := List.head?_eq_some_iff.1 hhead.symm
    obtain ⟨rest, rfl, hrest⟩ := hsettled t ht
    rw [hrule.maskFrom_stars] at hz
    exact ⟨_, hz, hrule.ends_maskFrom hrest⟩
  | @announced front' x x' word' link' secret rest hann' hparted hsecret hrest hpast hy hz =>
    cases x' with
    | nil =>
      -- the stars would stand behind announcements of both rules
      obtain ⟨rfl, -⟩ := List.cons.inj hz
      rw [List.append_nil] at hparted
      rw [hparted] at hpast
      exact absurd hpast (hapart hc hann hann' past front')
    | cons d x' =>
      obtain ⟨rfl, -⟩ := List.cons.inj hz
      obtain ⟨rest', hrest', -⟩ := hsettled _ hy
      rw [hy] at hrest'
      obtain ⟨rfl, -⟩ := List.cons.inj hrest'
      have hmem : '*' ∈ word' ++ link' := by rw [← hparted]; simp
      exact absurd hmem (hrule.star_notMem hann')

end Regular

/-! ### The three rules -/

/-- An assignment is not announced where a bearer token is: the one ends with a mark, the other with
    a letter, and blanks behind. -/
theorem apart_bearerRule {rule : Rule} (hassign : rule.LooksForAssignment)
    (hvalue : rule.isValue 'a' = true) : bearerRule.Apart rule := by
  intro _ before word link before' word' link' hann hann' front front' heq
  obtain ⟨hne, hchars⟩ := isRegular_bearerRule.isCueChar_of_mem hann
  obtain ⟨-, hlink⟩ := isLink_bearer_iff.1 hann.link
  obtain ⟨init, last, blanks, rfl, hlast, hblank, hblanks⟩ :=
    ((hassign.isLink_iff hvalue).1 hann'.link).exists_last
  obtain ⟨word, d, rfl⟩ := List.eq_nil_or_concat word |>.resolve_left hne
  have hd : isCueChar d = true := hchars d (by simp)
  have hcut : (front ++ word) ++ d :: link = (front' ++ (word' ++ init)) ++ last :: blanks := by
    simpa using heq
  have hlastNot : last ∉ link := fun hmem => by
    rw [hlink last hmem] at hblank
    exact absurd hblank (by decide)
  have hdNot : d ∉ blanks := fun hmem => by
    have hlinkChar : isLinkChar d = true := by simp [isLinkChar, hblanks d hmem]
    rw [isCueChar_eq_false hlinkChar] at hd
    exact absurd hd (by decide)
  obtain ⟨-, rfl, -⟩ := Text.append_cons_inj_last hcut hlastNot hdNot
  rw [hd] at hlast
  exact absurd hlast (by decide)

/-- A star is no character of encoded credentials. -/
theorem apart_registryRule (rule : Rule) : registryRule.Apart rule :=
  fun hstar => absurd hstar (by decide)

/-- A text that is settled for each of the rules. -/
structure Settled (s : List Char) : Prop where
  bearer : bearerRule.Settled s
  registry : registryRule.Settled s
  assignment : assignmentRule.Settled s

/-- What has been masked is settled. -/
theorem settled_maskChars (s : List Char) : Settled (maskChars s) := by
  have hregistry : bearerRule.Settled (registryRule.mask (bearerRule.mask s)) :=
    isRegular_registryRule.settled_mask_of_apart isRegular_bearerRule
      (apart_bearerRule looksForAssignment_registryRule (by decide))
      (isRegular_bearerRule.settled_mask s)
  refine ⟨?_, ?_, isRegular_assignmentRule.settled_mask _⟩
  · exact isRegular_assignmentRule.settled_mask_of_apart isRegular_bearerRule
      (apart_bearerRule looksForAssignment_assignmentRule (by decide)) hregistry
  · exact isRegular_assignmentRule.settled_mask_of_apart isRegular_registryRule
      (apart_registryRule assignmentRule) (isRegular_registryRule.settled_mask _)

/-- What is settled is left alone. -/
theorem Settled.maskChars_eq {s : List Char} (h : Settled s) : maskChars s = s := by
  unfold maskChars
  rw [isRegular_bearerRule.mask_eq_self h.bearer, isRegular_registryRule.mask_eq_self h.registry,
    isRegular_assignmentRule.mask_eq_self h.assignment]

/-! ### Lines of the log -/

/-- A settled text stays settled behind one that ends with a blank and in which no word of the rule
    can be spelled. -/
theorem Rule.IsRegular.settled_append {rule : Rule} (hrule : rule.IsRegular) {u s : List Char}
    (hspelled : ∀ cue ∈ rule.cues, ∃ d ∈ cue.word, ∀ c ∈ u, Text.asciiLower c ≠ d)
    (hlast : u.getLast? = some ' ') (h : rule.Settled s) : rule.Settled (u ++ s) := by
  intro front word link c v heq hann hc
  obtain ⟨cue, hcue, hword, -⟩ := hann.cue
  -- an announcement behind `u` is one in `s`
  have hbehind : ∀ m, front = u ++ m → s = m ++ (word ++ (link ++ c :: v)) →
      ∃ rest, c :: v = stars ++ rest ∧ rule.Ends rest := by
    rintro m rfl hs
    refine h hs ⟨?_, hann.link⟩ hc
    obtain ⟨cue, hcue, hword, halone⟩ := hann.cue
    refine ⟨cue, hcue, hword, fun ha => ⟨?_, (halone ha).2⟩⟩
    cases hm : m.getLast? with
    | none => rfl
    | some d =>
      have hbefore := (halone ha).1
      rwa [List.getLast?_append, hm, Option.some_or] at hbefore
  rcases List.append_eq_append_iff.1 heq with ⟨m, hfront, hs⟩ | ⟨m, hu, hrest⟩
  · exact hbehind m hfront hs
  · rcases List.append_eq_append_iff.1 hrest with ⟨m', hm, -⟩ | ⟨m', hm, hs⟩
    · -- the word is spelled in `u`
      obtain ⟨d, hd, hnot⟩ := hspelled cue hcue
      rw [← hword] at hd
      obtain ⟨e, he, rfl⟩ := List.mem_map.1 hd
      exact absurd rfl (hnot e (by rw [hu, hm]; simp [he]))
    · cases m with
      | nil =>
        rw [List.append_nil] at hu
        exact hbehind [] (by rw [hu, List.append_nil]) (by rw [hs, hm]; simp)
      | cons d m =>
        -- the blank that ends `u` is no character of the word
        have hblank : ' ' ∈ word := by
          have hlast' : (d :: m).getLast? = some ' ' := by
            rw [← hlast, hu, List.getLast?_append, List.getLast?_cons]
            rfl
          rw [hm]
          exact List.mem_append_left _ (List.mem_of_getLast? hlast')
        exact absurd ((hrule.isCueChar_of_mem hann).2 ' ' hblank) (by decide)

namespace Line

/-- What stands in front of the message in a line that bears the time. -/
def preface (time : Time) (level : Level) : String :=
  Colour.grey.paint ("[" ++ time.text ++ "]") ++ " " ++ level.label.2.paint level.label.1 ++ " "

/-- The lines that bear the time. -/
theorem text_eq (time : Time) {level : Level} (h : level ≠ .success) (message : String) :
    text time ⟨level, message⟩ = preface time level ++ mask message ++ "\n" := by
  cases level with
  | success => exact absurd rfl h
  | _ => rfl

/-- A number has no letters and hyphens. -/
theorem filter_toString (n : Nat) : (toString n).toList.filter isCueChar = [] := by
  rw [List.filter_eq_nil_iff]
  intro c hc
  rw [Nat.toString_eq_repr, Nat.toList_repr] at hc
  have hdigit := Char.isDigit_iff_toNat.1 (Nat.isDigit_of_mem_toDigits (by decide) (by decide) hc)
  obtain ⟨hlow, hhigh⟩ : 48 ≤ c.toNat ∧ c.toNat ≤ 57 := hdigit
  rw [isCueChar_iff]
  omega

/-- Nor has one with two digits. -/
theorem filter_twoDigits (n : Nat) : (twoDigits n).toList.filter isCueChar = [] := by
  unfold twoDigits
  split
  · rw [String.toList_append, List.filter_append, filter_toString]
    rfl
  · exact filter_toString n

/-- The letters in front of a message are those of the label, and the `m` of control sequences. -/
theorem filter_preface (time : Time) (level : Level) :
    (preface time level).toList.filter isCueChar =
      'm' :: '-' :: '-' :: 'm' :: 'm' :: (level.label.1.toList.filter isCueChar ++ ['m']) := by
  simp only [preface, Colour.paint, Time.text, String.toList_append, List.filter_append,
    filter_toString, filter_twoDigits]
  cases level <;> rfl

/-- No word of a rule can be spelled with them. -/
theorem notSpelled {rule : Rule} (hrule : rule ∈ [bearerRule, registryRule, assignmentRule])
    (time : Time) {level : Level} (h : level ≠ .success) :
    ∀ cue ∈ rule.cues, ∃ d ∈ cue.word, ∀ c ∈ (preface time level).toList,
      Text.asciiLower c ≠ d := by
  -- a letter of the word that is not among those of the label
  have hletter : ∀ rule ∈ [bearerRule, registryRule, assignmentRule], ∀ cue ∈ rule.cues,
      (cue.word.any fun d => isCueChar d &&
        ('m' :: '-' :: '-' :: 'm' :: 'm' :: (level.label.1.toList.filter isCueChar ++ ['m'])).all
          fun c => Text.asciiLower c != d) = true := by
    cases level with
    | success => exact absurd rfl h
    | _ => decide
  intro cue hcue
  obtain ⟨d, hd, hnot⟩ := List.any_eq_true.1 (hletter rule hrule cue hcue)
  obtain ⟨hdcue, hnot⟩ := Bool.and_eq_true_iff.1 hnot
  refine ⟨d, hd, fun c hc heq => ?_⟩
  have hmem := List.mem_filter.2 ⟨hc, isCueChar_of_asciiLower heq hdcue⟩
  rw [filter_preface] at hmem
  exact absurd heq (bne_iff_ne.1 (List.all_eq_true.1 hnot c hmem))

/-- What stands in front of the message in a line leaves it settled. -/
theorem settled_preface_append (time : Time) {level : Level} (h : level ≠ .success) {s : List Char}
    (hs : Settled s) : Settled ((preface time level).toList ++ s) := by
  have hlast : (preface time level).toList.getLast? = some ' ' := by
    rw [preface, String.toList_append, List.getLast?_append]
    rfl
  refine ⟨?_, ?_, ?_⟩
  · exact isRegular_bearerRule.settled_append (notSpelled (by simp) time h) hlast hs.bearer
  · exact isRegular_registryRule.settled_append (notSpelled (by simp) time h) hlast hs.registry
  · exact isRegular_assignmentRule.settled_append (notSpelled (by simp) time h) hlast hs.assignment

end Line

/-! ### Main result -/

/-- A message that is settled is left alone. -/
theorem mask_of_settled {t : String} (h : Settled t.toList) : mask t = t := by
  rw [mask, h.maskChars_eq, String.ofList_toList]

/-- The filter for breadcrumbs looks at messages only. -/
theorem filterBreadcrumb_of_messages {members : Members Json}
    (h : ∀ value, ("message", value) ∈ members → Report.filterMessage value = value) :
    Report.filterBreadcrumb (.object members) = .object members := by
  have hmember : ∀ member ∈ members,
      (member.1, if member.1 = "message" then Report.filterMessage member.2 else member.2) =
        member := by
    rintro ⟨name, value⟩ hmem
    by_cases hname : name = "message"
    · subst hname
      rw [if_pos rfl, h value hmem]
    · rw [if_neg hname]
  show Json.object (members.map fun member => (member.1,
    if member.1 = "message" then Report.filterMessage member.2 else member.2)) = _
  rw [List.map_congr_left hmember, List.map_id']

/-- A line of the log is settled but for its end. -/
theorem settled_line {time : Time} {level : Level} (h : level ≠ .success) {message line : String}
    (hline : line ++ "\n" = Line.text time ⟨level, message⟩)
    (hmasked : Settled (mask message).toList) : Settled line.toList := by
  rw [Line.text_eq time h] at hline
  have htexts : line.toList ++ "\n".toList =
      ((Line.preface time level).toList ++ (mask message).toList) ++ "\n".toList := by
    simpa using congrArg String.toList hline
  rw [List.append_cancel_right htexts]
  exact Line.settled_preface_append time h hmasked

/-- Masking a message again changes nothing, and the filter for breadcrumbs changes nothing in those
    whose message went through the log: as it is, or as a line of the log without its end.  Lines of
    success are left out, as they are not masked in the first place. -/
theorem mask_mask (message : String) :
    mask (mask message) = mask message ∧
      ∀ members : Members Json,
        (∀ value, ("message", value) ∈ members → value = .string (mask message) ∨
          ∃ time level line, level ≠ .success ∧ line ++ "\n" = Line.text time ⟨level, message⟩ ∧
            value = .string line) →
        Report.filterBreadcrumb (.object members) = .object members := by
  have hmasked : Settled (mask message).toList := by
    rw [mask, String.toList_ofList]
    exact settled_maskChars message.toList
  refine ⟨mask_of_settled hmasked, fun members hmembers => ?_⟩
  apply filterBreadcrumb_of_messages
  intro value hmem
  rcases hmembers value hmem with rfl | ⟨time, level, line, hlevel, hline, rfl⟩
  · rw [Report.filterMessage, mask_of_settled hmasked]
  · rw [Report.filterMessage, mask_of_settled (settled_line hlevel hline hmasked)]

/-- A warning that bore a token, as a line of the log without its end. -/
def warningOfToken : String :=
  "\x1b[90m[2024-02-11 10:00:59]\x1b[0m \x1b[33mWARN \x1b[0m Authorization: **** ****"

/-- It is left alone in a breadcrumb. -/
theorem filterBreadcrumb_warningOfToken :
    (Level.warn ≠ .success ∧ warningOfToken ++ "\n" =
      Line.text ⟨2024, 2, 11, 10, 0, 59⟩ ⟨.warn, "Authorization: Bearer abc"⟩) ∧
    mask (mask "Authorization: Bearer abc") = mask "Authorization: Bearer abc" ∧
      Report.filterBreadcrumb
        (.object [("category", .string "console"), ("message", .string warningOfToken)]) =
          .object [("category", .string "console"), ("message", .string warningOfToken)] := by
  have hline : warningOfToken ++ "\n" =
      Line.text ⟨2024, 2, 11, 10, 0, 59⟩ ⟨.warn, "Authorization: Bearer abc"⟩ := by decide
  refine ⟨⟨by decide, hline⟩, (mask_mask _).1,
    (mask_mask "Authorization: Bearer abc").2 _ fun value hmem => ?_⟩
  obtain rfl : value = .string warningOfToken := by simpa using hmem
  exact .inr ⟨_, .warn, _, by decide, hline, rfl⟩

end ImageBuild.Log
