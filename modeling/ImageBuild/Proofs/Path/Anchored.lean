import ImageBuild.Path.Windows
import ImageBuild.Proofs.Path.Location
import ImageBuild.Proofs.Text.SmallLetters
import Mathlib.Data.List.TakeWhile

namespace ImageBuild.Path.Windows

/-!
# Anchored paths — devices, and what normalizing a rooted path gives

A rooted path is a device, a separator and names.  `IsDevice` says which texts stand in front of the
separator, and `textOf` puts such a path together again:

* `isDevice_anchor`, `anchor_append` — a path is cut at a device, and a device in front of a
  separator is what the path is cut at;
* `cut_of_rooted` — reserved names count as devices of rooted paths in device name spaces only, and
  are marked as long then;
* `normalize_of_rooted`, `normalize_textOf` — normalizing gives the text of a device and names, and
  keeps such a text.
-/

/-- What may stand before the first separator of a rooted path: nothing, a drive, a device name
    space or a share. -/
inductive IsDevice : List Char → Prop
  | none : IsDevice []
  | drive {letter : Char} (hletter : isDriveLetter letter = true) : IsDevice [letter, ':']
  | nameSpace {mark : List Char} (hmark : mark = dot ∨ mark = ['?']) :
    IsDevice ('\\' :: '\\' :: mark)
  | share {server name : List Char} (hserver : server ≠ [])
    (hserver_free : ∀ c ∈ server, isSeparator c = false) (hmark : ¬ (server = dot ∨ server = ['?']))
    (hname : name ≠ []) (hname_free : ∀ c ∈ name, isSeparator c = false) :
    IsDevice ('\\' :: '\\' :: server ++ '\\' :: name)

/-- The separators are the slash and the backslash. -/
theorem isSeparator_iff {c : Char} : isSeparator c = true ↔ c = '/' ∨ c = '\\' := by
  rw [isSeparator, Bool.or_eq_true, beq_iff_eq, beq_iff_eq]

/-- The letter of a drive is no character that could not be one. -/
theorem ne_of_isDriveLetter {letter c : Char} (hletter : isDriveLetter letter = true)
    (hc : isDriveLetter c = false) : letter ≠ c := by
  rintro rfl
  rw [hletter] at hc
  cases hc

/-- Letters of drives are no separators. -/
theorem isSeparator_of_isDriveLetter {c : Char} (h : isDriveLetter c = true) :
    isSeparator c = false := by
  rw [Bool.eq_false_iff]
  intro hseparator
  rcases isSeparator_iff.1 hseparator with rfl | rfl <;> exact absurd h (by decide)

/-- One separator in place of another is a separator, and nothing else becomes one. -/
theorem isSeparator_swap {a b : Char} (ha : isSeparator a = true) (hb : isSeparator b = true)
    (c : Char) : isSeparator (if c = a then b else c) = isSeparator c := by
  split
  · rename_i hc
    rw [hc, ha, hb]
  · rfl

/-- A path with one separator in place of the other has the same pieces. -/
theorem split_swap {a b : Char} (ha : isSeparator a = true) (hb : isSeparator b = true)
    (p : List Char) :
    Text.split isSeparator (p.map fun c => if c = a then b else c) = Text.split isSeparator p := by
  refine Text.split_map (isSeparator_swap ha hb) (fun c hc => ?_) p
  rw [if_neg]
  rintro rfl
  rw [ha] at hc
  cases hc

/-! ### Cutting a path at its device -/

/-- What stands before the first character that stops a text, and what starts with it. -/
theorem span_append_cons {p : Char → Bool} {s : List Char} (hs : ∀ c ∈ s, p c = true) {c : Char}
    (hc : p c = false) (t : List Char) :
    (s ++ c :: t).takeWhile p = s ∧ (s ++ c :: t).dropWhile p = c :: t := by
  rw [List.takeWhile_append_of_pos hs, List.dropWhile_append_of_pos hs]
  simp [hc]

/-- A network path is cut at a device, and is rooted. -/
theorem isDevice_networkDevice? {rest : List Char} {a : Anchored}
    (h : networkDevice? rest = some a) : IsDevice a.device ∧ a.rooted = true := by
  rw [networkDevice?] at h
  split at h
  · cases h
  · rename_i hnamed
    simp only [not_or] at hnamed
    have hfree : ∀ c ∈ rest.takeWhile (!isSeparator ·), isSeparator c = false := by
      intro c hc
      simpa using List.mem_takeWhile_imp hc
    split at h
    · rename_i hmark
      cases h
      exact ⟨.nameSpace hmark, rfl⟩
    · rename_i hmark
      cases h
      refine ⟨.share hnamed.1 hfree hmark ?_ ?_, rfl⟩
      · -- the name starts where the separators before it end
        intro hnil
        obtain ⟨c, t, hct⟩ := List.exists_cons_of_ne_nil hnamed.2.2
        have hc : isSeparator c = false := by
          have hhead := List.head?_dropWhile_not isSeparator (rest.dropWhile (!isSeparator ·))
          rw [hct] at hhead
          simpa using hhead
        rw [hct, List.takeWhile_cons_of_pos (by simpa using hc)] at hnil
        cases hnil
      · intro c hc
        simpa using List.mem_takeWhile_imp hc

/-- A path is cut at a device. -/
theorem isDevice_anchor (p : List Char) : IsDevice (anchor p).device := by
  unfold anchor
  split
  · exact .none
  · split <;> exact .none
  · rename_i a b rest
    split
    · split
      · cases hnetwork : networkDevice? rest with
        | none => exact .none
        | some cut => exact (isDevice_networkDevice? hnetwork).1
      · exact .none
    · split
      · rename_i hdrive
        obtain ⟨hletter, rfl⟩ := hdrive
        split
        · split <;> exact .drive hletter
        · exact .drive hletter
      · exact .none

/-- An absolute path is rooted. -/
theorem rooted_anchor {p : List Char} (hp : isAbsolute p = true) : (anchor p).rooted = true := by
  have hnetwork : ∀ rest, ((networkDevice? rest).getD ⟨[], true, p⟩).rooted = true := by
    intro rest
    cases hcut : networkDevice? rest with
    | none => rfl
    | some cut => exact (isDevice_networkDevice? hcut).2
  unfold isAbsolute at hp
  unfold anchor
  split
  · simp at hp
  · rw [if_pos (by simpa using hp)]
  · rename_i a b rest
    by_cases hsep : isSeparator a = true
    · rw [if_pos hsep]
      split
      · exact hnetwork rest
      · rfl
    · -- without a separator in front there must be a drive and a separator
      split at hp
      · rename_i c tail heq
        cases heq
        rw [if_neg hsep]
        simp_all
      · rename_i heq
        cases heq
        exact absurd hp hsep
      · cases hp

/-- A device name space is cut off in front of a separator and a name. -/
theorem networkDevice?_nameSpace {mark : List Char} (hmark : mark = dot ∨ mark = ['?'])
    {body : List Char} (hbody : ∀ c, body.head? = some c → isSeparator c = false)
    (hne : body ≠ []) :
    networkDevice? (mark ++ '\\' :: body) = some ⟨'\\' :: '\\' :: mark, true, body⟩ := by
  obtain ⟨c, rest, rfl⟩ := List.exists_cons_of_ne_nil hne
  have hc : isSeparator c = false := hbody c rfl
  have hseparator : isSeparator '\\' = true := rfl
  rcases hmark with rfl | rfl
  · simp [networkDevice?, dot, hc, hseparator, show isSeparator '.' = false from rfl]
  · simp [networkDevice?, hc, hseparator, show isSeparator '?' = false from rfl]

/-- A share is cut off in front of a separator. -/
theorem networkDevice?_share {server name : List Char} (hserver : server ≠ [])
    (hserver_free : ∀ c ∈ server, isSeparator c = false) (hmark : ¬ (server = dot ∨ server = ['?']))
    (hname : name ≠ []) (hname_free : ∀ c ∈ name, isSeparator c = false) (body : List Char) :
    networkDevice? (server ++ '\\' :: (name ++ '\\' :: body)) =
      some ⟨'\\' :: '\\' :: server ++ '\\' :: name, true, '\\' :: body⟩ := by
  have hseparator : isSeparator '\\' = true := rfl
  obtain ⟨hserver_front, hserver_back⟩ := span_append_cons (p := (!isSeparator ·))
    (s := server) (by simpa using hserver_free) (c := '\\') rfl (name ++ '\\' :: body)
  obtain ⟨hname_front, -⟩ := span_append_cons (p := (!isSeparator ·))
    (s := name) (by simpa using hname_free) (c := '\\') rfl body
  have hnamed : ('\\' :: (name ++ '\\' :: body)).dropWhile isSeparator = name ++ '\\' :: body := by
    obtain ⟨c, rest, rfl⟩ := List.exists_cons_of_ne_nil hname
    simp [hseparator, hname_free c (by simp)]
  simp only [networkDevice?, hserver_front, hserver_back, hnamed, hname_front]
  rw [if_neg (by simp [hserver]), if_neg hmark]
  simp

/-- A device in front of a separator is what a path is cut at.  A device name space needs a name
    behind it. -/
theorem anchor_append {device : List Char} (hdevice : IsDevice device) {body : List Char}
    (hbody : ∀ c, body.head? = some c → isSeparator c = false)
    (hname : IsNameSpace device → body ≠ []) :
    ∃ tail, anchor (device ++ '\\' :: body) = ⟨device, true, tail⟩ ∧
      (tail = body ∨ tail = '\\' :: body) := by
  have hsep : isSeparator '\\' = true := rfl
  cases hdevice with
  | none =>
    cases body with
    | nil => exact ⟨[], rfl, .inl rfl⟩
    | cons c rest =>
      have hc : isSeparator c = false := hbody c rfl
      exact ⟨c :: rest, by simp [anchor, hsep, hc], .inl rfl⟩
  | drive hletter =>
    exact ⟨body, by simp [anchor, hsep, hletter, isSeparator_of_isDriveLetter hletter], .inl rfl⟩
  | nameSpace hmark =>
    have hne : body ≠ [] := hname (by rcases hmark with rfl | rfl <;> simp [IsNameSpace, dot])
    refine ⟨body, ?_, .inl rfl⟩
    have hcut := networkDevice?_nameSpace hmark hbody hne
    simp [anchor, hsep, hcut]
  | share hserver hserver_free hmark hshare hshare_free =>
    refine ⟨'\\' :: body, ?_, .inr rfl⟩
    have hcut := networkDevice?_share hserver hserver_free hmark hshare hshare_free body
    simp [anchor, hsep, hcut]

/-! ### Reserved names -/

/-- There is no separator in a reserved name. -/
theorem isSeparator_of_isReserved {name : List Char} (h : isReserved name = true) {c : Char}
    (hc : c ∈ name) : isSeparator c = false := by
  have hnames : ∀ reserved ∈ reservedNames, '/' ∉ reserved ∧ '\\' ∉ reserved := by decide
  have hsmall := hnames _ (List.contains_iff_mem.1 h)
  rw [Bool.eq_false_iff]
  intro hseparator
  rcases isSeparator_iff.1 hseparator with rfl | rfl
  · exact hsmall.1 (List.mem_map.2 ⟨_, hc, by decide⟩)
  · exact hsmall.2 (List.mem_map.2 ⟨_, hc, by decide⟩)

/-- A reserved name is longer than the letter of a drive. -/
theorem two_le_length_of_isReserved {name : List Char} (h : isReserved name = true) :
    2 ≤ name.length := by
  have hnames : ∀ reserved ∈ reservedNames, 2 ≤ reserved.length := by decide
  simpa using hnames _ (List.contains_iff_mem.1 h)

/-- A text with a reserved name in front of its first colon is that name, the colon and the rest. -/
theorem reservedDevice?_eq_some {s device tail : List Char}
    (h : reservedDevice? s = some (device, tail)) :
    ∃ name, isReserved name = true ∧ device = name ++ [':'] ∧ s = name ++ ':' :: tail := by
  rw [reservedDevice?] at h
  split at h
  · cases h
  · rename_i colon rest hrest
    have hcolon : colon = ':' := by
      have hhead := List.head?_dropWhile_not (· ≠ ':') s
      rw [hrest] at hhead
      simpa using hhead
    split at h
    · rename_i hname
      obtain ⟨rfl, rfl⟩ := Prod.mk.inj (Option.some.inj h)
      subst hcolon
      refine ⟨_, hname, rfl, ?_⟩
      rw [← hrest, List.takeWhile_append_dropWhile]
    · cases h

/-- There is no device of a reserved name where no such name stands in front of a colon. -/
theorem reservedDevice?_eq_none {s : List Char}
    (h : ∀ name tail, isReserved name = true → s ≠ name ++ ':' :: tail) : reservedDevice? s = none := by
  rw [Option.eq_none_iff_forall_ne_some]
  rintro ⟨device, tail⟩ hdevice
  obtain ⟨name, hname, -, htext⟩ := reservedDevice?_eq_some hdevice
  exact h name tail hname htext

/-- There is none without a colon. -/
theorem reservedDevice?_of_colon_notMem {s : List Char} (h : ':' ∉ s) : reservedDevice? s = none := by
  refine reservedDevice?_eq_none fun name tail _ htext => h ?_
  rw [htext]
  exact List.mem_append_right _ (List.mem_cons_self ..)

/-- There is none behind a separator. -/
theorem reservedDevice?_cons_of_isSeparator {c : Char} (hc : isSeparator c = true) (s : List Char) :
    reservedDevice? (c :: s) = none := by
  refine reservedDevice?_eq_none fun name tail hname htext => ?_
  cases name with
  | nil => exact absurd (two_le_length_of_isReserved hname) (by simp)
  | cons d name =>
    obtain ⟨rfl, -⟩ := List.cons.inj htext
    rw [isSeparator_of_isReserved hname (List.mem_cons_self ..)] at hc
    cases hc

/-- The name of a drive is too short. -/
theorem reservedDevice?_drive (letter : Char) : reservedDevice? [letter, ':'] = none := by
  refine reservedDevice?_eq_none fun name tail hname htext => ?_
  have hlength := congrArg List.length htext
  have htwo := two_le_length_of_isReserved hname
  simp only [List.length_append, List.length_cons, List.length_nil] at hlength
  omega

/-- A rooted path is cut where it is anchored, unless a device name space holds a reserved name:
    that is marked as long. -/
theorem cut_of_rooted {p : List Char} (hp : (anchor p).rooted = true) :
    cut p = anchor p ∨ ∃ device tail,
      IsNameSpace (anchor p).device ∧ reservedDevice? (anchor p).tail = some (device, tail) ∧
        cut p = ⟨'\\' :: '\\' :: '?' :: '\\' :: device, true, tail⟩ := by
  unfold cut
  dsimp only
  split
  · rename_i hspace
    cases hdevice : reservedDevice? (anchor p).tail with
    | none => exact .inl rfl
    | some found => exact .inr ⟨found.1, found.2, hspace, rfl, rfl⟩
  · rw [if_neg (by simp [hp])]
    exact .inl rfl

/-- Outside device name spaces a rooted path is cut where it is anchored. -/
theorem cut_eq_anchor {p : List Char} (hp : (anchor p).rooted = true)
    (hspace : ¬ IsNameSpace (anchor p).device) : cut p = anchor p := by
  rcases cut_of_rooted hp with heq | ⟨_, _, hdevice, -⟩
  · exact heq
  · exact absurd hdevice hspace

/-- A rooted path is cut as one. -/
theorem rooted_cut {p : List Char} (hp : (anchor p).rooted = true) : (cut p).rooted = true := by
  rcases cut_of_rooted hp with heq | ⟨_, _, -, -, heq⟩
  · rw [heq, hp]
  · rw [heq]

/-- A rooted path starts with a separator or with a drive. -/
theorem head_of_rooted {a b : Char} {rest : List Char} (hp : (anchor (a :: b :: rest)).rooted = true) :
    isSeparator a = true ∨ isDriveLetter a = true ∧ b = ':' := by
  by_contra hneither
  obtain ⟨hseparator, hdrive⟩ := not_or.1 hneither
  simp [anchor, hseparator, hdrive] at hp

/-- What stands in front of the first colon of a rooted path is no reserved name. -/
theorem isReserved_beforeColon {a b : Char} {rest : List Char}
    (hp : (anchor (a :: b :: rest)).rooted = true) :
    isReserved (beforeColon (a :: b :: rest)) = false := by
  rw [Bool.eq_false_iff]
  intro hreserved
  rcases head_of_rooted hp with hseparator | ⟨hletter, rfl⟩
  · -- the separator would be in the name
    have hmem : a ∈ beforeColon (a :: b :: rest) := by
      have hunit : Text.unitsOf a = 1 ∧ a ≠ ':' := by
        rcases isSeparator_iff.1 hseparator with rfl | rfl <;> decide
      have hmore : 1 ≤ Text.unitLength (b :: rest) :=
        le_trans (Text.unitsOf_pos b) (Nat.le_add_right ..)
      unfold beforeColon
      split
      · rw [List.takeWhile_cons_of_pos (by simpa using hunit.2)]
        exact List.mem_cons_self ..
      · rw [Text.unitLength, hunit.1, Text.takeUnits, if_neg (by omega), hunit.1, if_neg (by omega)]
        exact List.mem_cons_self ..
    rw [isSeparator_of_isReserved hreserved hmem] at hseparator
    cases hseparator
  · have hcolon : a ≠ ':' := ne_of_isDriveLetter hletter (by decide)
    have hname : beforeColon (a :: ':' :: rest) = [a] := by
      rw [beforeColon, if_pos (by simp), List.takeWhile_cons_of_pos (by simpa using hcolon),
        List.takeWhile_cons_of_neg (by simp)]
    rw [hname] at hreserved
    exact absurd (two_le_length_of_isReserved hreserved) (by simp)

/-! ### Texts of a device and names -/

/-- Whether a path ends in a separator. -/
def endsInSeparator (p : List Char) : Bool := (p.getLast?.map isSeparator).getD false

/-- The names that the tail of a rooted path leads to. -/
def tailNames (tail : List Char) : List (List Char) :=
  collapse true (Text.split isSeparator tail)

/-- The text of a rooted path: its device, a separator, its names and, if there are any, a last
    separator. -/
def textOf (device : List Char) (names : List (List Char)) (ended : Bool) : List Char :=
  device ++ '\\' :: (Text.join '\\' names ++ if ended ∧ names ≠ [] then ['\\'] else [])

section Text

variable {device : List Char} {names : List (List Char)}

/-- The tail of a path leads to names. -/
theorem isName_of_mem_tailNames (tail : List Char) :
    ∀ name ∈ tailNames tail, IsName isSeparator name := by
  rw [tailNames, collapse_true]
  exact isName_of_mem_foldl (by simp) fun piece hpiece => Text.free_of_mem_split hpiece

/-- A separator in front of a tail does not matter. -/
theorem tailNames_cons {c : Char} (hc : isSeparator c = true) (tail : List Char) :
    tailNames (c :: tail) = tailNames tail := by
  rw [tailNames, tailNames, collapse_true, collapse_true, Text.split, if_pos hc, List.foldl_cons,
    enter_nil]

/-- The text of names, with or without a last separator, leads to them. -/
theorem tailNames_join (hnames : ∀ name ∈ names, IsName isSeparator name) (ended : Bool) :
    tailNames (Text.join '\\' names ++ if ended ∧ names ≠ [] then ['\\'] else []) = names := by
  have hseparator : isSeparator '\\' = true := rfl
  have hfree : ∀ name ∈ names, ∀ c ∈ name, isSeparator c = false :=
    fun name hname => (hnames name hname).free
  rw [tailNames, collapse_true]
  by_cases hne : names = []
  · simp [hne, Text.join, Text.split]
  · split
    · rw [Text.split_append_cons hseparator, Text.split_join hseparator hne hfree,
        List.foldl_append, foldl_enter_of_isName hnames]
      simp [Text.split]
    · rw [List.append_nil, Text.split_join hseparator hne hfree, foldl_enter_of_isName hnames,
        List.nil_append]

/-- The text of names is made of backslashes and their characters. -/
theorem eq_or_mem_of_mem_join {ended : Bool} {c : Char}
    (h : c ∈ Text.join '\\' names ++ if ended ∧ names ≠ [] then ['\\'] else []) :
    c = '\\' ∨ ∃ name ∈ names, c ∈ name := by
  rcases List.mem_append.1 h with h | h
  · exact Text.mem_join h
  · split at h
    · exact .inl (List.mem_singleton.1 h)
    · cases h

/-- Names that are joined make a text. -/
theorem join_eq_nil_iff (hnames : ∀ name ∈ names, IsName isSeparator name) :
    Text.join '\\' names = [] ↔ names = [] := by
  constructor
  · intro h
    by_contra hne
    exact Text.join_ne_nil hne (fun name hname => (hnames name hname).ne_nil) h
  · rintro rfl
    rfl

/-- Without names there is nothing that a last separator could end. -/
theorem textOf_nil (device : List Char) (ended : Bool) :
    textOf device [] ended = device ++ ['\\'] := by
  simp [textOf, Text.join]

/-- A rooted path is normalized to the text of its device and the names that its tail leads to, with
    a last separator where the path has one. -/
theorem normalize_of_rooted {p : List Char} (hp : (anchor p).rooted = true) :
    normalize p = textOf (cut p).device (tailNames (cut p).tail) (endsInSeparator p) := by
  unfold normalize
  split
  · simp [anchor] at hp
  · rename_i c
    have hc : isSeparator c = true := by
      by_contra hc
      simp [anchor, hc] at hp
    have hanchor : anchor [c] = ⟨[], true, []⟩ := by simp [anchor, hc]
    have hcut : cut [c] = ⟨[], true, []⟩ := by
      rw [cut_eq_anchor hp (by rw [hanchor]; decide), hanchor]
    rw [hcut, show tailNames [] = [] from rfl, textOf_nil]
    rcases isSeparator_iff.1 hc with rfl | rfl <;> rfl
  · rename_i hne hlong
    obtain ⟨a, b, rest, rfl⟩ : ∃ a b rest, p = a :: b :: rest := by
      match p, hne, hlong with
      | [], hne, _ => exact absurd rfl hne
      | [c], _, hlong => exact absurd rfl (hlong c)
      | a :: b :: rest, _, _ => exact ⟨a, b, rest, rfl⟩
    have hreserved := isReserved_beforeColon hp
    generalize a :: b :: rest = p at hp hreserved ⊢
    have hnames := join_eq_nil_iff (isName_of_mem_tailNames (cut p).tail)
    have htext : tailText true (cut p).tail = Text.join '\\' (tailNames (cut p).tail) := rfl
    have hended : (p.getLast?.map isSeparator).getD false = endsInSeparator p := rfl
    simp only [rooted_cut hp, htext, hended, textOf, hreserved]
    by_cases hne : tailNames (cut p).tail = []
    · simp [hne, Text.join]
    · by_cases hlast : endsInSeparator p = true <;> simp [hne, hnames, hlast]

/-- A text of names ends in a separator where it was given one. -/
theorem endsInSeparator_textOf (hnames : ∀ name ∈ names, IsName isSeparator name)
    (hne : names ≠ []) (ended : Bool) : endsInSeparator (textOf device names ended) = ended := by
  have hseparator : isSeparator '\\' = true := rfl
  cases ended with
  | true =>
    rw [textOf, if_pos ⟨rfl, hne⟩, ← List.cons_append, ← List.append_assoc, endsInSeparator,
      List.getLast?_concat]
    rfl
  | false =>
    -- after a last separator there would be an empty piece, and the last piece is a name
    rw [Bool.eq_false_iff]
    intro hends
    obtain ⟨c, hlast, hc⟩ : ∃ c, (textOf device names false).getLast? = some c ∧
        isSeparator c = true := by
      rw [endsInSeparator] at hends
      cases hlast : (textOf device names false).getLast? with
      | none => simp [hlast] at hends
      | some c => exact ⟨c, rfl, by simpa [hlast] using hends⟩
    have hempty : (Text.split isSeparator (textOf device names false)).getLast? = some [] :=
      Text.getLast?_split_of_getLast? hc hlast
    rw [textOf, if_neg (by simp), List.append_nil, Text.split_append_cons hseparator,
      Text.split_join hseparator hne fun name hname => (hnames name hname).free,
      List.getLast?_append, List.getLast?_eq_some_getLast hne, Option.some_or] at hempty
    exact (hnames _ (List.getLast_mem hne)).ne_nil (Option.some.inj hempty)

/-- The names in a text do not start with a separator. -/
theorem head?_join (hnames : ∀ name ∈ names, IsName isSeparator name) (ended : Bool) :
    ∀ c, (Text.join '\\' names ++ if ended ∧ names ≠ [] then ['\\'] else []).head? = some c →
      isSeparator c = false := by
  intro c hc
  cases names with
  | nil => simp [Text.join] at hc
  | cons name rest =>
    obtain ⟨ending, hjoin, -⟩ := Text.join_cons_eq_append '\\' name rest
    have hname := hnames name (by simp)
    obtain ⟨d, letters, rfl⟩ := List.exists_cons_of_ne_nil hname.ne_nil
    rw [hjoin] at hc
    simp only [List.cons_append, List.head?_cons, Option.some.injEq] at hc
    exact hc ▸ hname.free d (by simp)

/-- The text of a device and names is anchored at the device, in front of the text of the names.  A
    device name space needs a name behind it: without one its letter would be read as a name. -/
theorem anchor_textOf (hdevice : IsDevice device) (hnames : ∀ name ∈ names, IsName isSeparator name)
    (hspace : IsNameSpace device → names ≠ []) (ended : Bool) :
    ∃ tail, anchor (textOf device names ended) = ⟨device, true, tail⟩ ∧ tailNames tail = names ∧
      ∃ rest, textOf device names ended = device ++ '\\' :: rest ∧
        (tail = rest ∨ tail = '\\' :: rest) := by
  have hbody : IsNameSpace device →
      (Text.join '\\' names ++ if ended ∧ names ≠ [] then ['\\'] else []) ≠ [] := by
    intro hdevice hnil
    exact hspace hdevice ((join_eq_nil_iff hnames).1 (List.append_eq_nil_iff.1 hnil).1)
  obtain ⟨tail, hcut, htail⟩ := anchor_append hdevice (head?_join hnames ended) hbody
  refine ⟨tail, hcut, ?_, _, rfl, htail⟩
  rcases htail with rfl | rfl
  · exact tailNames_join hnames ended
  · rw [tailNames_cons rfl, tailNames_join hnames ended]

/-- Normalizing the text of a device and names changes nothing, where no device name space is left
    without a name behind it or in front of a reserved one. -/
theorem normalize_textOf (hdevice : IsDevice device)
    (hnames : ∀ name ∈ names, IsName isSeparator name) (ended : Bool)
    (hspace : IsNameSpace device → ∀ rest, textOf device names ended = device ++ '\\' :: rest →
      rest ≠ [] ∧ reservedDevice? rest = none) :
    normalize (textOf device names ended) = textOf device names ended := by
  have hnamed : IsNameSpace device → names ≠ [] := by
    rintro hdevice rfl
    exact (hspace hdevice [] (textOf_nil device ended)).1 rfl
  obtain ⟨tail, hanchor, htail, rest, htext, hrest⟩ := anchor_textOf hdevice hnames hnamed ended
  have hrooted : (anchor (textOf device names ended)).rooted = true := by rw [hanchor]
  have hcut : cut (textOf device names ended) = ⟨device, true, tail⟩ := by
    rcases cut_of_rooted hrooted with heq | ⟨_, _, hdevice, hreserved, -⟩
    · rw [heq, hanchor]
    · rw [hanchor] at hdevice hreserved
      have hplain : reservedDevice? tail = none := by
        rcases hrest with rfl | rfl
        · exact (hspace hdevice _ htext).2
        · exact reservedDevice?_cons_of_isSeparator rfl rest
      rw [hplain] at hreserved
      cases hreserved
  rw [normalize_of_rooted hrooted, hcut, htail]
  by_cases hne : names = []
  · subst hne
    rw [textOf_nil, textOf_nil]
  · rw [endsInSeparator_textOf hnames hne]

/-- What starts with a separator is absolute. -/
theorem isAbsolute_of_isSeparator {c : Char} (hc : isSeparator c = true) (rest : List Char) :
    isAbsolute (c :: rest) = true := by
  unfold isAbsolute
  split
  · rename_i heq
    cases heq
    simp [hc]
  · rename_i heq
    cases heq
    exact hc
  · rename_i heq
    cases heq

/-- What an absolute path starts is absolute. -/
theorem isAbsolute_append {p : List Char} (hp : isAbsolute p = true) (rest : List Char) :
    isAbsolute (p ++ rest) = true := by
  unfold isAbsolute at hp
  split at hp
  · simpa [isAbsolute] using hp
  · exact isAbsolute_of_isSeparator hp _
  · cases hp

/-- An absolute path stays absolute with backslashes alone. -/
theorem isAbsolute_toBackslashes {p : List Char} (hp : isAbsolute p = true) :
    isAbsolute (toBackslashes p) = true := by
  have hkept : ∀ c : Char, isSeparator (if c = '/' then '\\' else c) = isSeparator c :=
    isSeparator_swap (by decide) (by decide)
  cases p with
  | nil => cases hp
  | cons a rest =>
    by_cases hseparator : isSeparator a = true
    · exact isAbsolute_of_isSeparator ((hkept a).trans hseparator) _
    · -- without a separator in front there must be a drive and a separator
      unfold isAbsolute at hp
      split at hp
      · rename_i c tail heq
        cases heq
        simp only [hseparator, Bool.false_or, Bool.and_eq_true] at hp
        have hletter : a ≠ '/' := ne_of_isDriveLetter hp.1 (by decide)
        simp [toBackslashes, isAbsolute, hletter, hp.1, hkept c, hp.2]
      · rename_i heq
        cases heq
        exact absurd hp hseparator
      · cases hp

/-- The text of a device and names is absolute. -/
theorem isAbsolute_textOf (hdevice : IsDevice device) (names : List (List Char)) (ended : Bool) :
    isAbsolute (textOf device names ended) = true := by
  cases hdevice with
  | none | nameSpace | share => exact isAbsolute_of_isSeparator rfl _
  | drive hletter => simp [textOf, isAbsolute, hletter, isSeparator]

/-- A normalized absolute path is absolute. -/
theorem isAbsolute_normalize {p : List Char} (hp : isAbsolute p = true) :
    isAbsolute (normalize p) = true := by
  rw [normalize_of_rooted (rooted_anchor hp)]
  rcases cut_of_rooted (rooted_anchor hp) with heq | ⟨_, _, -, -, heq⟩
  · rw [heq]
    exact isAbsolute_textOf (isDevice_anchor p) _ _
  · rw [heq]
    exact isAbsolute_of_isSeparator rfl _

/-- Normalizing what is normalized changes nothing, where that is not marked as long and no device
    name space is left without a name behind it or in front of a reserved one. -/
theorem normalize_normalize {p : List Char} (hp : isAbsolute p = true)
    (hmark : ∀ rest, normalize p ≠ '\\' :: '\\' :: '?' :: '\\' :: rest)
    (hspace : ∀ rest, normalize p = '\\' :: '\\' :: '.' :: '\\' :: rest →
      rest ≠ [] ∧ reservedDevice? rest = none) :
    normalize (normalize p) = normalize p := by
  rw [normalize_of_rooted (rooted_anchor hp)] at hmark hspace ⊢
  rcases cut_of_rooted (rooted_anchor hp) with heq | ⟨_, _, -, -, heq⟩
  · rw [heq] at hmark hspace ⊢
    refine normalize_textOf (isDevice_anchor p) (isName_of_mem_tailNames _) _ ?_
    rintro (hdevice | hdevice) rest htext <;> rw [htext, hdevice] at hmark hspace
    · exact hspace rest rfl
    · exact absurd rfl (hmark rest)
  · rw [heq] at hmark
    exact absurd rfl (hmark _)

end Text

/-! ### Joining -/

/-- Parts that make an absolute path are joined to one: leading separators are cut down to one, unless
    the first part names a server. -/
theorem isAbsolute_joined {parts others : List (List Char)} {first : List Char}
    (hparts : parts.filter (· ≠ []) = first :: others)
    (habs : isAbsolute (Text.join '\\' (first :: others)) = true) :
    isAbsolute (joined parts) = true := by
  unfold joined
  rw [hparts]
  dsimp only
  split
  · exact habs
  · exact isAbsolute_of_isSeparator rfl _

/-- A path behind an absolute one is joined to an absolute path. -/
theorem isAbsolute_joined_of_isAbsolute {cwd : List Char} (hcwd : isAbsolute cwd = true)
    (p : List Char) : isAbsolute (joined [cwd, p]) = true := by
  have hne : cwd ≠ [] := by rintro rfl; cases hcwd
  by_cases hp : p = []
  · have hparts : [cwd, p].filter (· ≠ []) = [cwd] := by simp [hne, hp]
    exact isAbsolute_joined hparts hcwd
  · have hparts : [cwd, p].filter (· ≠ []) = [cwd, p] := by simp [hne, hp]
    exact isAbsolute_joined hparts (isAbsolute_append hcwd _)

end ImageBuild.Path.Windows
