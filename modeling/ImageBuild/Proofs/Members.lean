import ImageBuild.Members
import Mathlib.Data.List.Induction
import Mathlib.Data.List.TakeWhile

namespace ImageBuild.Members

/-!
# Listings — the order that members are always in

Index names come first, in ascending order, and no name is listed twice.  A list in this order is
its own listing: inserting its members one after the other gives the list again
(`foldl_insert`, `ofPairs_of_isListed`).  What is inserted or erased under a name is what is found
there afterwards, and nothing changes under other names (`get?_insert`, `get?_erase`).  No two names
spell the same index (`index?_injective`), so that every insertion keeps the order
(`IsListed.insert`).  The listing of any pairs has the last value of each name (`get?_ofPairs`), and
keeps the names that spell no index in the order of their first pairs (`names_ofPairs`).  Members
that are made from named things, with a value for some of them, have each value under its own name
(`get?_made`, `get?_made_of_mem`).
-/

variable {α : Type}

/-- Whether a name is listed before another one. -/
def precedes (a b : String) : Bool :=
  match index? a, index? b with
  | some i, some j => i < j
  | some _, none => true
  | none, some _ => false
  | none, none => a != b

/-- Members are in the order in which they are always listed. -/
def IsListed (ms : Members α) : Prop := ms.Pairwise fun m n => precedes m.1 n.1 = true

instance (ms : Members α) : Decidable (IsListed ms) :=
  inferInstanceAs (Decidable (ms.Pairwise fun m n => precedes m.1 n.1 = true))

/-- No name is listed before itself. -/
theorem precedes_irrefl (a : String) : precedes a a = false := by
  unfold precedes
  cases index? a <;> simp

/-- Members are in order when their names are. -/
theorem isListed_iff_names {ms : Members α} :
    IsListed ms ↔ ms.names.Pairwise fun a b => precedes a b = true := by
  rw [IsListed, names, List.pairwise_map]

/-- The order of members depends on their names alone. -/
theorem isListed_congr {β : Type} {ms : Members α} {ns : Members β} (h : ms.names = ns.names) :
    IsListed ms ↔ IsListed ns := by
  rw [isListed_iff_names, isListed_iff_names, h]

/-- Members keep their order when their values change. -/
theorem isListed_map {β : Type} (f : α → β) {ms : Members α} :
    IsListed (ms.map fun m => (m.1, f m.2)) ↔ IsListed ms :=
  isListed_congr (by simp [names])

/-! ### Looking up -/

/-- The value found under a name is listed under it. -/
theorem mem_of_get? {ms : Members α} {name : String} {value : α}
    (h : ms.get? name = some value) : (name, value) ∈ ms := by
  induction ms with
  | nil => simp [get?] at h
  | cons m ms ih =>
    obtain ⟨n, v⟩ := m
    rw [get?, List.lookup_cons] at h
    split at h
    · rename_i hname
      rw [Option.some.injEq] at h
      simp_all
    · exact List.mem_cons_of_mem _ (ih h)

/-- A name is listed when there is a value under it. -/
theorem has_iff_mem_names {ms : Members α} {name : String} :
    ms.has name = true ↔ name ∈ ms.names := by
  induction ms with
  | nil => simp [has, get?, names]
  | cons m ms ih =>
    obtain ⟨n, v⟩ := m
    simp only [has, get?, names, List.map_cons, List.mem_cons] at ih ⊢
    rw [List.lookup_cons]
    split
    · rename_i hname
      simp [beq_iff_eq.1 hname]
    · rename_i hname
      simp [beq_eq_false_iff_ne.1 hname, ih]

/-! ### Inserting and erasing -/

/-- Nothing is found where there are no members. -/
@[simp] theorem get?_nil (name : String) : get? ([] : Members α) name = none := rfl

/-- The first member under a name decides what is found there. -/
@[simp] theorem get?_cons (m : String × α) (ms : Members α) (name : String) :
    get? (m :: ms) name = if name = m.1 then some m.2 else get? ms name := by
  obtain ⟨n, v⟩ := m
  rw [get?, List.lookup_cons, ← get?]
  by_cases h : name = n
  · simp [h]
  · simp [h, beq_eq_false_iff_ne.2 h]

/-- In order, every member is found under its name. -/
theorem IsListed.get?_of_mem {ms : Members α} (h : ms.IsListed) {m : String × α} (hm : m ∈ ms) :
    ms.get? m.1 = some m.2 := by
  induction ms with
  | nil => cases hm
  | cons n ms ih =>
    obtain ⟨hfirst, hrest⟩ := List.pairwise_cons.1 h
    rw [get?_cons]
    rcases List.mem_cons.1 hm with rfl | hm
    · rw [if_pos rfl]
    · -- a name that comes twice would precede itself
      have hne : m.1 ≠ n.1 := by
        intro heq
        have hprecedes := hfirst m hm
        rw [heq, precedes_irrefl] at hprecedes
        cases hprecedes
      rw [if_neg hne, ih hrest hm]

/-- What is not found in a list is looked for in the list after it. -/
@[simp] theorem get?_append (ms ns : Members α) (name : String) :
    get? (ms ++ ns) name = (ms.get? name).or (ns.get? name) :=
  List.lookup_append

/-- Under every name is what was found there, mapped like all values. -/
theorem get?_map {β : Type} (f : α → β) (ms : Members α) (name : String) :
    get? (ms.map fun m => (m.1, f m.2)) name = (ms.get? name).map f := by
  induction ms with
  | nil => rfl
  | cons m ms ih =>
    rw [List.map_cons, get?_cons, get?_cons, ih]
    split <;> rfl

/-- A member that there may be is found under its name. -/
@[simp] theorem get?_toList (name : String) (value : Option α) (other : String) :
    get? (value.toList.map fun v => (name, v)) other = if other = name then value else none := by
  cases value with
  | none => simp
  | some v => exact get?_cons (name, v) [] other

/-- A member that is made from what there may be is found under its name. -/
@[simp] theorem get?_toList_map {β : Type} (name : String) (f : β → α) (value : Option β)
    (other : String) : get? (value.toList.map fun v => (name, f v)) other =
      if other = name then value.map f else none := by
  rw [← get?_toList, Option.toList_map, List.map_map]
  rfl

/-- A replaced value is found under its name, where the name is listed, and nowhere else. -/
theorem get?_replace (ms : Members α) (name : String) (value : α) (other : String) :
    (ms.replace name value).get? other =
      if other = name then (ms.get? other).map fun _ => value else ms.get? other := by
  induction ms with
  | nil => simp [replace, get?]
  | cons m ms ih =>
    rw [replace, List.map_cons, ← replace, get?_cons, get?_cons, ih]
    by_cases hm : m.1 = name
    · by_cases hother : other = name <;> simp [hm, hother]
    · by_cases hother : other = m.1
      · simp [hm, hother]
      · simp [hm, hother]

/-- A member that is placed among others is found under its name, and nothing changes under other
    names. -/
theorem get?_place {ms : Members α} {name : String} (h : ms.has name = false) (value : α)
    (other : String) :
    (ms.place name value).get? other = if other = name then some value else ms.get? other := by
  -- wherever the member stands, the others around it are those that there were
  have hsplit : ∀ front back : Members α, front ++ back = ms →
      get? (front ++ (name, value) :: back) other =
        if other = name then some value else ms.get? other := by
    rintro front back rfl
    have hnone : get? (front ++ back) name = none := by simpa [has] using h
    rw [get?_append, Option.or_eq_none_iff] at hnone
    rw [get?_append, get?_append, get?_cons]
    by_cases hother : other = name
    · simp [hother, hnone.1]
    · simp [hother]
  unfold place
  cases index? name with
  | none => simpa using hsplit ms [] (by simp)
  | some i => exact hsplit _ _ List.takeWhile_append_dropWhile

/-- An inserted value is found under its name, and nothing changes under other names. -/
theorem get?_insert (ms : Members α) (name : String) (value : α) (other : String) :
    (ms.insert name value).get? other = if other = name then some value else ms.get? other := by
  rw [insert]
  by_cases h : ms.has name = true
  · rw [if_pos h, get?_replace]
    obtain ⟨v, hv⟩ := Option.isSome_iff_exists.1 h
    by_cases hother : other = name <;> simp [hother, hv]
  · rw [if_neg h, get?_place (by simpa using h)]

/-- An inserted name is listed, and no other one that was not. -/
theorem mem_names_insert {ms : Members α} {name other : String} {value : α} :
    other ∈ (ms.insert name value).names ↔ other = name ∨ other ∈ ms.names := by
  rw [← has_iff_mem_names, ← has_iff_mem_names, has, has, get?_insert]
  by_cases hother : other = name <;> simp [hother]

/-- Nothing is found under an erased name, and nothing changes under other names. -/
theorem get?_erase (ms : Members α) (name other : String) :
    (ms.erase name).get? other = if other = name then none else ms.get? other := by
  induction ms with
  | nil => simp [erase, get?]
  | cons m ms ih =>
    by_cases hm : m.1 = name
    · rw [erase, List.filter_cons_of_neg (by simp [hm]), ← erase, ih, get?_cons, hm]
      by_cases hother : other = name <;> simp [hother]
    · rw [erase, List.filter_cons_of_pos (by simp [hm]), ← erase, get?_cons, get?_cons, ih]
      by_cases hother : other = m.1
      · simp [hother, hm]
      · simp [hother]

/-- Erasing a name that is not listed changes nothing. -/
theorem erase_of_forall_ne {ms : Members α} {name : String} (h : ∀ m ∈ ms, m.1 ≠ name) :
    ms.erase name = ms :=
  List.filter_eq_self.2 (by simpa using h)

/-- An erased name is not listed. -/
theorem ne_of_mem_erase {ms : Members α} {name : String} {m : String × α}
    (hm : m ∈ ms.erase name) : m.1 ≠ name := by
  simpa using (List.mem_filter.1 hm).2

/-- A name is erased once. -/
theorem erase_erase (ms : Members α) (name : String) :
    (ms.erase name).erase name = ms.erase name :=
  erase_of_forall_ne fun _ hm => ne_of_mem_erase hm

/-- Erasing a name keeps the order. -/
theorem IsListed.erase {ms : Members α} (h : ms.IsListed) (name : String) :
    (ms.erase name).IsListed :=
  h.filter _

/-- Under a name that a value was inserted under, no other value is listed. -/
theorem eq_of_mem_insert {ms : Members α} {name : String} {value : α} {m : String × α}
    (hm : m ∈ ms.insert name value) (hname : m.1 = name) : m = (name, value) := by
  rw [insert] at hm
  by_cases hhas : ms.has name = true
  · rw [if_pos hhas, replace, List.mem_map] at hm
    obtain ⟨n, -, hn⟩ := hm
    by_cases hsame : n.1 = name <;> simp_all
  · -- the name was not listed before, so that only the new member is under it
    have hnew : m ∉ ms := by
      intro hmem
      exact hhas (has_iff_mem_names.2 (hname ▸ List.mem_map_of_mem hmem))
    rw [if_neg hhas, place] at hm
    cases hindex : index? name with
    | none => simp_all
    | some i =>
      rw [hindex] at hm
      simp only [List.mem_append, List.mem_cons] at hm
      rcases hm with hfront | rfl | hback
      · exact absurd (List.takeWhile_sublist _ |>.subset hfront) hnew
      · rfl
      · exact absurd (List.dropWhile_sublist _ |>.subset hback) hnew

/-- Inserting the same value once more changes nothing. -/
theorem insert_insert (ms : Members α) (name : String) (value : α) :
    (ms.insert name value).insert name value = ms.insert name value := by
  have hhas : (ms.insert name value).has name = true := by simp [has, get?_insert]
  have hself : ∀ m ∈ ms.insert name value, (if m.1 == name then (name, value) else m) = id m := by
    intro m hm
    split
    · rename_i hname
      exact (eq_of_mem_insert hm (by simpa using hname)).symm
    · rfl
  rw [insert, if_pos hhas, replace, List.map_congr_left hself, List.map_id]

/-! ### Inserting in order -/

/-- A name that all others precede goes to the end. -/
theorem insert_of_precedes {ms : Members α} {name : String}
    (h : ∀ m ∈ ms, precedes m.1 name = true) (value : α) :
    ms.insert name value = ms ++ [(name, value)] := by
  -- a name that is listed already would precede itself
  have hnew : ms.has name = false := by
    rw [Bool.eq_false_iff, Ne, has_iff_mem_names, names, List.mem_map]
    rintro ⟨m, hm, rfl⟩
    simpa [precedes_irrefl] using h m hm
  rw [insert, hnew]
  simp only [Bool.false_eq_true, if_false, place]
  cases hindex : index? name with
  | none => rfl
  | some i =>
    have hbelow : ∀ m ∈ ms, isIndexBelow i m.1 = true := by
      intro m hm
      have hm := h m hm
      unfold precedes at hm
      unfold isIndexBelow
      cases hmi : index? m.1 <;> simp_all
    simp only [List.takeWhile_eq_self_iff.2 hbelow, List.dropWhile_eq_nil_iff.2 hbelow]

/-- Inserting members in order appends them. -/
theorem foldl_insert {ms acc : Members α} (h : IsListed (acc ++ ms)) :
    ms.foldl (fun ms p => ms.insert p.1 p.2) acc = acc ++ ms := by
  induction ms generalizing acc with
  | nil => simp
  | cons m ms ih =>
    -- what is listed so far precedes all that is to come, so that each insertion is at the end
    have hparts := List.pairwise_append.1 h
    have hlast : ∀ n ∈ acc, precedes n.1 m.1 = true := fun n hn => hparts.2.2 n hn m (by simp)
    rw [List.foldl_cons, insert_of_precedes hlast, ih (by simpa using h)]
    simp

/-- A list in order is its own listing. -/
theorem ofPairs_of_isListed {ms : Members α} (h : IsListed ms) : ofPairs ms = ms := by
  have hfold : ofPairs ms = [] ++ ms := foldl_insert h
  simpa using hfold

/-! ### Names of indices -/

/-- A digit is the character of a number below ten. -/
theorem exists_eq_digitChar {c : Char} (h : c.isDigit = true) : ∃ d < 10, c = d.digitChar := by
  have hrange : 48 ≤ c.toNat ∧ c.toNat ≤ 57 := Char.isDigit_iff_toNat.1 h
  have hd : c.toNat - 48 < 10 := by omega
  refine ⟨c.toNat - 48, hd, Char.toNat_inj.1 ?_⟩
  rw [Nat.toNat_digitChar_of_lt_ten hd]
  omega

/-- Digits that are written after a number above zero are its last digits. -/
theorem toDigits_ofDigitChars {digits : List Char} (hdigits : ∀ c ∈ digits, c.isDigit = true)
    {n : Nat} (hn : 0 < n) :
    Nat.toDigits 10 (Nat.ofDigitChars 10 digits n) = Nat.toDigits 10 n ++ digits := by
  induction digits generalizing n with
  | nil => simp
  | cons c cs ih =>
    obtain ⟨d, hd, rfl⟩ := exists_eq_digitChar (hdigits c (by simp))
    rw [Nat.ofDigitChars_cons_digitChar_of_lt_ten hd,
      ih (fun c hc => hdigits c (by simp [hc])) (by omega),
      ← Nat.toDigits_append_toDigits (by decide) hn hd, Nat.toDigits_of_lt_base hd,
      List.append_assoc, List.singleton_append]

/-- A name that spells an index consists of its digits. -/
theorem toList_of_index? {name : String} {i : Nat} (h : index? name = some i) :
    name.toList = Nat.toDigits 10 i := by
  unfold index? at h
  split at h
  · cases h
  · rename_i hzero
    cases h
    simpa using hzero
  · cases h
  · rename_i hne hnotZero hzeroes
    split at h
    · rename_i hall
      rw [Bool.and_eq_true, List.all_eq_true] at hall
      cases hname : name.toList with
      | nil => exact absurd hname hne
      | cons c cs =>
        rw [hname] at h hall
        obtain ⟨d, hd, rfl⟩ := exists_eq_digitChar (hall.1 c (by simp))
        -- the first digit is not zero, so that the others are written after a number above zero
        have hpos : 0 < d := by
          rcases Nat.eq_zero_or_pos d with rfl | hpos
          · exact absurd hname (hzeroes cs)
          · exact hpos
        have hvalue : Nat.ofDigitChars 10 (d.digitChar :: cs) 0 = i := by
          simp only [Option.ite_none_right_eq_some, Option.some.injEq] at h
          exact h.2
        rw [← hvalue, Nat.ofDigitChars_cons_digitChar_of_lt_ten hd,
          toDigits_ofDigitChars (fun c hc => hall.1 c (by simp [hc])) (by omega), Nat.mul_zero,
          Nat.zero_add, Nat.toDigits_of_lt_base hd, List.singleton_append]
    · cases h

/-- Two names that spell the same index are the same. -/
theorem index?_injective {a b : String} {i : Nat} (ha : index? a = some i)
    (hb : index? b = some i) : a = b :=
  String.toList_inj.1 ((toList_of_index? ha).trans (toList_of_index? hb).symm)

/-! ### Inserting anywhere -/

/-- Replacing a value changes no name. -/
theorem names_replace (ms : Members α) (name : String) (value : α) :
    (ms.replace name value).names = ms.names := by
  rw [replace, names, names, List.map_map]
  refine List.map_congr_left fun m _ => ?_
  by_cases h : m.1 = name <;> simp [h]

/-- A name before an index below `i` is an index below `i`. -/
theorem isIndexBelow_of_precedes {a b : String} {i : Nat} (h : precedes a b = true)
    (hb : isIndexBelow i b = true) : isIndexBelow i a = true := by
  unfold precedes at h
  unfold isIndexBelow at hb ⊢
  cases ha : index? a <;> cases hb' : index? b <;> simp_all
  omega

/-- In order, no index below `i` comes after the front of those. -/
theorem isIndexBelow_of_mem_dropWhile {ms : Members α} (h : ms.IsListed) {i : Nat}
    {m : String × α} (hm : m ∈ ms.dropWhile fun m => isIndexBelow i m.1) :
    isIndexBelow i m.1 = false := by
  induction ms with
  | nil => cases hm
  | cons n ms ih =>
    have hparts := List.pairwise_cons.1 h
    by_cases hn : isIndexBelow i n.1 = true
    · rw [List.dropWhile_cons, if_pos hn] at hm
      exact ih hparts.2 hm
    · rw [List.dropWhile_cons, if_neg hn] at hm
      rw [Bool.eq_false_iff]
      rcases List.mem_cons.1 hm with rfl | hm
      · exact hn
      · exact fun hbelow => hn (isIndexBelow_of_precedes (hparts.1 m hm) hbelow)

/-- Another name than `name`, which spells the index `i`, that is no index below `i` comes after
    `name`. -/
theorem precedes_of_not_below {name other : String} {i : Nat} (hname : index? name = some i)
    (hbelow : isIndexBelow i other = false) (hne : other ≠ name) : precedes name other = true := by
  unfold isIndexBelow at hbelow
  unfold precedes
  rw [hname]
  cases hother : index? other with
  | none => rfl
  | some j =>
    have hij : i ≠ j := by
      rintro rfl
      exact hne (index?_injective hother hname)
    simp only [hother, decide_eq_false_iff_not] at hbelow
    simp only [decide_eq_true_eq]
    omega

/-- A member that is placed among others has its place in the order. -/
theorem IsListed.place {ms : Members α} (h : ms.IsListed) {name : String}
    (hnew : ms.has name = false) (value : α) : (ms.place name value).IsListed := by
  have hne : ∀ m ∈ ms, m.1 ≠ name := by
    rintro m hm rfl
    exact Bool.eq_false_iff.1 hnew (has_iff_mem_names.2 (List.mem_map_of_mem hm))
  rw [IsListed, Members.place]
  cases hindex : index? name with
  | none =>
    refine List.pairwise_append.2 ⟨h, List.pairwise_singleton _ _, fun m hm n hn => ?_⟩
    rw [List.mem_singleton.1 hn]
    unfold precedes
    rw [hindex]
    cases index? m.1 <;> simp [hne m hm]
  | some i =>
    -- the indices below `i` stay in front, and all that follows them comes after the new name
    let below : String × α → Bool := fun m => isIndexBelow i m.1
    have hsplit : (ms.takeWhile below ++ ms.dropWhile below).Pairwise
        fun m n => precedes m.1 n.1 = true := by
      rw [List.takeWhile_append_dropWhile]
      exact h
    obtain ⟨hfront, hback, hcross⟩ := List.pairwise_append.1 hsplit
    have hafter : ∀ n ∈ ms.dropWhile below, precedes name n.1 = true := fun n hn =>
      precedes_of_not_below hindex (isIndexBelow_of_mem_dropWhile h hn)
        (hne n (List.dropWhile_sublist _ |>.subset hn))
    have hbefore : ∀ m ∈ ms.takeWhile below, precedes m.1 name = true := by
      intro m hm
      have hm : below m = true := List.mem_takeWhile_imp hm
      change isIndexBelow i m.1 = true at hm
      unfold isIndexBelow at hm
      unfold precedes
      rw [hindex]
      cases hmi : index? m.1 <;> simp_all
    refine List.pairwise_append.2 ⟨hfront, List.pairwise_cons.2 ⟨hafter, hback⟩, ?_⟩
    intro m hm n hn
    rcases List.mem_cons.1 hn with rfl | hn
    · exact hbefore m hm
    · exact hcross m hm n hn

/-- Insertions keep the order. -/
theorem IsListed.insert {ms : Members α} (h : ms.IsListed) (name : String) (value : α) :
    (ms.insert name value).IsListed := by
  rw [Members.insert]
  by_cases hhas : ms.has name = true
  · rw [if_pos hhas]
    exact (isListed_congr (names_replace ms name value)).2 h
  · rw [if_neg hhas]
    exact h.place (by simpa using hhas) value

/-! ### Listings -/

/-- One more pair is inserted last. -/
theorem ofPairs_concat (pairs : List (String × α)) (p : String × α) :
    ofPairs (pairs ++ [p]) = (ofPairs pairs).insert p.1 p.2 := by
  simp [ofPairs]

/-- A listing is in order. -/
theorem isListed_ofPairs (pairs : List (String × α)) : IsListed (ofPairs pairs) := by
  induction pairs using List.reverseRecOn with
  | nil => exact List.Pairwise.nil
  | append_singleton pairs p ih =>
    rw [ofPairs_concat]
    exact ih.insert p.1 p.2

/-- Under a name, a listing has the value of the last pair of that name. -/
theorem get?_ofPairs (pairs : List (String × α)) (name : String) :
    (ofPairs pairs).get? name = pairs.reverse.lookup name := by
  induction pairs using List.reverseRecOn with
  | nil => rfl
  | append_singleton pairs p ih =>
    rw [ofPairs_concat, get?_insert, ih, List.reverse_concat]
    exact (get?_cons p pairs.reverse name).symm

/-- Only a list without pairs has nothing to list. -/
theorem ofPairs_eq_nil_iff {pairs : List (String × α)} : ofPairs pairs = [] ↔ pairs = [] := by
  constructor
  · intro h
    cases pairs using List.reverseRecOn with
    | nil => rfl
    | append_singleton pairs p =>
      -- the last pair is found under its name
      have hget := get?_insert (ofPairs pairs) p.1 p.2 p.1
      rw [← ofPairs_concat, h] at hget
      simp at hget
  · rintro rfl
    rfl

/-- Names that spell no index are listed once each, in the order in which they first occur. -/
theorem names_ofPairs {pairs : List (String × α)} (h : ∀ p ∈ pairs, index? p.1 = none) :
    (ofPairs pairs).names = (pairs.map (·.1)).eraseDups := by
  induction pairs using List.reverseRecOn with
  | nil => rfl
  | append_singleton pairs p ih =>
    have ih := ih fun q hq => h q (by simp [hq])
    have hp : index? p.1 = none := h p (by simp)
    have hhas : (ofPairs pairs).has p.1 = true ↔ p.1 ∈ pairs.map (·.1) := by
      rw [has_iff_mem_names, ih, List.mem_eraseDups]
    rw [ofPairs_concat, List.map_append, List.map_singleton, List.eraseDups_append, ← ih, insert]
    -- a name that was listed before keeps its place, and any other one spells no index and goes last
    by_cases hlisted : p.1 ∈ pairs.map (·.1)
    · rw [if_pos (hhas.2 hlisted), names_replace]
      simp [List.removeAll, hlisted]
    · rw [if_neg (mt hhas.1 hlisted), place, hp]
      simp [names, List.removeAll, hlisted, List.eraseDups_cons]

/-! ### Values that are mapped -/

section Map

variable {β : Type} (f : α → β) (ms : Members α) (name : String) (value : α)

/-- Replacing a value and then mapping all is replacing it by the mapped one. -/
theorem replace_map :
    replace (ms.map fun m => (m.1, f m.2)) name (f value) =
      (ms.replace name value).map fun m => (m.1, f m.2) := by
  rw [replace, replace, List.map_map, List.map_map]
  refine List.map_congr_left fun m _ => ?_
  by_cases h : m.1 = name <;> simp [h]

/-- Placing a value and then mapping all is placing the mapped one. -/
theorem place_map :
    place (ms.map fun m => (m.1, f m.2)) name (f value) =
      (ms.place name value).map fun m => (m.1, f m.2) := by
  rw [place, place]
  cases index? name with
  | none => simp
  | some i => simp [List.takeWhile_map, List.dropWhile_map, Function.comp_def]

/-- Inserting a value and then mapping all is inserting the mapped one. -/
theorem insert_map :
    insert (ms.map fun m => (m.1, f m.2)) name (f value) =
      (ms.insert name value).map fun m => (m.1, f m.2) := by
  have hhas : has (ms.map fun m => (m.1, f m.2)) name = ms.has name := by
    simp [has, get?_map]
  rw [insert, insert, hhas, replace_map, place_map]
  split <;> rfl

/-- Listing mapped values is mapping the listing. -/
theorem ofPairs_map (pairs : List (String × α)) :
    ofPairs (pairs.map fun p => (p.1, f p.2)) = (ofPairs pairs).map fun m => (m.1, f m.2) := by
  induction pairs using List.reverseRecOn with
  | nil => rfl
  | append_singleton pairs p ih =>
    rw [List.map_append, List.map_singleton, ofPairs_concat, ofPairs_concat, ih, insert_map]

end Map

/-! ### Members made from named things -/

/-- What is made of some members of a list, and of the others not, is in the order of the list. -/
theorem filterMap_sublist_map {β γ : Type} {f : β → Option γ} {g : β → γ}
    (h : ∀ a b, f a = some b → b = g a) (l : List β) : (l.filterMap f).Sublist (l.map g) := by
  induction l with
  | nil => exact List.Sublist.refl []
  | cons a l ih =>
    cases hmade : f a with
    | none =>
      rw [List.filterMap_cons_none hmade]
      exact ih.cons (g a)
    | some b =>
      rw [List.filterMap_cons_some hmade, h a b hmade]
      exact ih.cons_cons (g a)

section Made

variable {β : Type} {value? : β → Option α}

/-- The members that named things make, as far as there is a value for them. -/
def made (value? : β → Option α) (pairs : List (String × β)) : Members α :=
  pairs.filterMap fun (name, b) => (value? b).map fun value => (name, value)

/-- What the first thing makes comes first. -/
theorem made_cons (name : String) (b : β) (pairs : List (String × β)) :
    made value? ((name, b) :: pairs) =
      ((value? b).toList.map fun value => (name, value)) ++ made value? pairs := by
  cases hvalue : value? b <;> simp [made, hvalue]

/-- Things in a row make members in a row. -/
theorem made_append (pairs others : List (String × β)) :
    made value? (pairs ++ others) = made value? pairs ++ made value? others :=
  List.filterMap_append

/-- The names of the members are names of the things, in their order. -/
theorem names_made_sublist (pairs : List (String × β)) :
    (made value? pairs).names.Sublist (pairs.map (·.1)) := by
  rw [names, made, List.map_filterMap]
  refine filterMap_sublist_map (fun p name h => ?_) pairs
  rw [Option.map_map, Option.map_eq_some_iff] at h
  obtain ⟨value, -, rfl⟩ := h
  rfl

/-- The member under a name is the value of the thing of this name. -/
theorem get?_made {pairs : List (String × β)} (hnodup : (pairs.map (·.1)).Nodup) (name : String) :
    (made value? pairs).get? name = (pairs.lookup name).bind value? := by
  induction pairs with
  | nil => rfl
  | cons p pairs ih =>
    obtain ⟨first, b⟩ := p
    rw [List.map_cons, List.nodup_cons] at hnodup
    rw [made_cons, get?_append, get?_toList, List.lookup_cons]
    by_cases hname : name = first
    · -- the thing of this name is the first one, and the others have other names
      have hrest : (made value? pairs).get? name = none := by
        rw [← Option.not_isSome_iff_eq_none]
        intro hsome
        have hmem : name ∈ (made value? pairs).names := has_iff_mem_names.1 hsome
        exact hnodup.1 (hname ▸ (names_made_sublist pairs).subset hmem)
      rw [hrest, Option.or_none]
      simp [hname]
    · simp [hname, beq_eq_false_iff_ne.2 hname, ih hnodup.2]

/-- Every thing has its value under its name. -/
theorem get?_made_of_mem {pairs : List (String × β)} (hnodup : (pairs.map (·.1)).Nodup)
    {p : String × β} (hp : p ∈ pairs) : (made value? pairs).get? p.1 = value? p.2 := by
  obtain ⟨front, back, rfl⟩ := List.append_of_mem hp
  have hfront : p.1 ∉ front.map (·.1) := by
    rw [List.map_append, List.nodup_append] at hnodup
    exact fun hmem => hnodup.2.2 _ hmem _ (by simp) rfl
  have hlookup : (front ++ p :: back).lookup p.1 = some p.2 := by
    rw [List.lookup_eq_some_iff]
    exact ⟨front, back, rfl, fun q hq => by
      simpa using fun heq : p.1 = q.1 => hfront (heq ▸ List.mem_map_of_mem hq)⟩
  rw [get?_made hnodup, hlookup]
  rfl

end Made

end ImageBuild.Members
