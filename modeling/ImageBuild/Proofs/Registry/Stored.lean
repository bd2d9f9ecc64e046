import ImageBuild.Registry.Stored
import ImageBuild.Proofs.Members
import ImageBuild.Proofs.Text.Split
import Mathlib.Data.List.Forall2

namespace ImageBuild.Registry

/-!
# Stored credentials — what a client config file holds

`Stores` says which credentials a stored entry holds: a token before a base64 text, that before a
username and a password in the clear, and otherwise none.  Reading an entry finds just these
(`stores_of_credentialsOfEntry`), and reading a file to its end reads its entries one by one
(`forall₂_of_readFile`).
-/

/-! ### What an entry stores -/

/-- The member of an entry under a name is a text that is not empty. -/
def Gives (entry : Members Json) (name text : String) : Prop :=
  entry.get? name = some (.string text) ∧ text ≠ ""

/-- The email of an entry: its text, or null when there is none. -/
inductive GivesEmail (entry : Members Json) : Field → Prop
  | given {email : String} (h : Gives entry "email" email) : GivesEmail entry (.text email)
  | missing (h : ∀ email, ¬ Gives entry "email" email) : GivesEmail entry .null

/-- The credentials that the entry of a registry stores. -/
inductive Stores (registry : String) (entry : Members Json) : Credentials → Prop
  /-- An identity token goes before all else. -/
  | token {token : String} (htoken : Gives entry "identitytoken" token) :
    Stores registry entry { identityToken := .text token, serverAddress := .text registry }
  /-- The first colon of a base64 text parts username and password. -/
  | encoded {auth : String} {username password : List Char} {email : Field}
    (htoken : ∀ token, ¬ Gives entry "identitytoken" token) (hauth : Gives entry "auth" auth)
    (hsplit : textOf auth = username ++ ':' :: password) (hcolon : ':' ∉ username)
    (hemail : GivesEmail entry email) :
    Stores registry entry
      { username := .text (String.ofList username), password := .text (String.ofList password)
        email := email, serverAddress := .text registry }
  /-- Username and password in the clear count last. -/
  | clear {username password : String} {email : Field}
    (htoken : ∀ token, ¬ Gives entry "identitytoken" token)
    (hauth : ∀ auth, ¬ Gives entry "auth" auth)
    (husername : Gives entry "username" username) (hpassword : Gives entry "password" password)
    (hemail : GivesEmail entry email) :
    Stores registry entry
      { username := .text username, password := .text password
        email := email, serverAddress := .text registry }
  /-- An entry with none of these stores nothing. -/
  | nothing (htoken : ∀ token, ¬ Gives entry "identitytoken" token)
    (hauth : ∀ auth, ¬ Gives entry "auth" auth)
    (hclear : ∀ username password,
      ¬ (Gives entry "username" username ∧ Gives entry "password" password)) :
    Stores registry entry {}

/-- An entry gives one text under a name. -/
theorem Gives.unique {entry : Members Json} {name a b : String} (ha : Gives entry name a)
    (hb : Gives entry name b) : a = b := by
  have h := ha.1.symm.trans hb.1
  simpa using h

/-- An entry gives one email. -/
theorem GivesEmail.unique {entry : Members Json} {e e' : Field} (h : GivesEmail entry e)
    (h' : GivesEmail entry e') : e = e' := by
  cases h with
  | given h =>
    cases h' with
    | given h' => rw [h.unique h']
    | missing hnone => exact absurd h (hnone _)
  | missing hnone =>
    cases h' with
    | given h' => exact absurd h' (hnone _)
    | missing => rfl

/-- An entry stores one thing for a registry. -/
theorem Stores.unique {registry : String} {entry : Members Json} {c c' : Credentials}
    (h : Stores registry entry c) (h' : Stores registry entry c') : c = c' := by
  -- two different cases contradict each other on the first text that one of them has
  cases h with
  | token htoken =>
    cases h' with
    | token htoken' => rw [htoken.unique htoken']
    | encoded hnone => exact absurd htoken (hnone _)
    | clear hnone => exact absurd htoken (hnone _)
    | nothing hnone => exact absurd htoken (hnone _)
  | encoded htoken hauth hsplit hcolon hemail =>
    cases h' with
    | token htoken' => exact absurd htoken' (htoken _)
    | encoded _ hauth' hsplit' hcolon' hemail' =>
      rw [hauth.unique hauth', hsplit'] at hsplit
      obtain ⟨rfl, rfl⟩ := Text.append_cons_unique hsplit hcolon' hcolon
      rw [hemail.unique hemail']
    | clear _ hnone => exact absurd hauth (hnone _)
    | nothing _ hnone => exact absurd hauth (hnone _)
  | clear htoken hnone husername hpassword hemail =>
    cases h' with
    | token htoken' => exact absurd htoken' (htoken _)
    | encoded _ hauth' => exact absurd hauth' (hnone _)
    | clear _ _ husername' hpassword' hemail' =>
      rw [husername.unique husername', hpassword.unique hpassword', hemail.unique hemail']
    | nothing _ _ hclear => exact absurd ⟨husername, hpassword⟩ (hclear _ _)
  | nothing htoken hnone hclear =>
    cases h' with
    | token htoken' => exact absurd htoken' (htoken _)
    | encoded _ hauth' => exact absurd hauth' (hnone _)
    | clear _ _ husername hpassword => exact absurd ⟨husername, hpassword⟩ (hclear _ _)
    | nothing => rfl

/-! ### Reading an entry -/

/-- What is found under a name is what an entry gives. -/
theorem gives_iff {entry : Members Json} {name text : String} :
    Gives entry name text ↔ (entry.get? name).bind Json.nonEmptyString? = some text := by
  cases hvalue : entry.get? name with
  | none => simp [Gives, hvalue]
  | some value =>
    cases value with
    | string s =>
      -- the empty text counts as missing
      by_cases hempty : s.isEmpty = true
      · have hs : s = "" := String.isEmpty_iff.1 hempty
        simp [Gives, hvalue, Json.nonEmptyString?, hs]
      · have hs : s ≠ "" := mt String.isEmpty_iff.2 hempty
        simp [Gives, hvalue, Json.nonEmptyString?, hempty]
        rintro rfl
        exact hs
    | _ => simp [Gives, hvalue, Json.nonEmptyString?]

/-- Nothing is found under a name exactly when an entry gives nothing there. -/
theorem not_gives_iff {entry : Members Json} {name : String} :
    (∀ text, ¬ Gives entry name text) ↔ (entry.get? name).bind Json.nonEmptyString? = none := by
  rw [Option.eq_none_iff_forall_ne_some]
  exact forall_congr' fun text => not_congr gives_iff

/-- The email that is found is the one that an entry gives. -/
theorem givesEmail_found (entry : Members Json) :
    GivesEmail entry (((entry.get? "email").bind Json.nonEmptyString?).elim .null .text) := by
  cases hemail : (entry.get? "email").bind Json.nonEmptyString? with
  | none => exact .missing (not_gives_iff.2 hemail)
  | some email => exact .given (gives_iff.2 hemail)

section
variable {registry : String} {entry : Members Json}

/-- An identity token goes before all else. -/
theorem credentialsOfEntry_token {token : String} (htoken : Gives entry "identitytoken" token) :
    credentialsOfEntry registry entry = .ok (.token token registry) := by
  simp [credentialsOfEntry, gives_iff.1 htoken]

/-- Without a token, a base64 text goes before what is in the clear. -/
theorem credentialsOfEntry_encoded {auth : String}
    (htoken : ∀ token, ¬ Gives entry "identitytoken" token) (hauth : Gives entry "auth" auth) :
    credentialsOfEntry registry entry = (decodeAuth auth).map fun login =>
      .login login.1 login.2 ((entry.get? "email").bind Json.nonEmptyString?) registry := by
  simp only [credentialsOfEntry, not_gives_iff.1 htoken, gives_iff.1 hauth]
  cases decodeAuth auth <;> rfl

/-- Username and password in the clear count when there is nothing else. -/
theorem credentialsOfEntry_clear {username password : String}
    (htoken : ∀ token, ¬ Gives entry "identitytoken" token)
    (hauth : ∀ auth, ¬ Gives entry "auth" auth)
    (husername : Gives entry "username" username) (hpassword : Gives entry "password" password) :
    credentialsOfEntry registry entry = .ok (.login username password
      ((entry.get? "email").bind Json.nonEmptyString?) registry) := by
  simp only [credentialsOfEntry, not_gives_iff.1 htoken, not_gives_iff.1 hauth,
    gives_iff.1 husername, gives_iff.1 hpassword]

/-- Half of what is in the clear counts for nothing. -/
theorem credentialsOfEntry_nothing (htoken : ∀ token, ¬ Gives entry "identitytoken" token)
    (hauth : ∀ auth, ¬ Gives entry "auth" auth)
    (hclear : ∀ username password,
      ¬ (Gives entry "username" username ∧ Gives entry "password" password)) :
    credentialsOfEntry registry entry = .ok .nothing := by
  simp only [credentialsOfEntry, not_gives_iff.1 htoken, not_gives_iff.1 hauth]
  cases husername : (entry.get? "username").bind Json.nonEmptyString? with
  | none => rfl
  | some username =>
    cases hpassword : (entry.get? "password").bind Json.nonEmptyString? with
    | none => rfl
    | some password =>
      exact absurd ⟨gives_iff.2 husername, gives_iff.2 hpassword⟩ (hclear username password)

end

/-- The username and the password of a base64 text are what its first colon parts. -/
theorem split_of_decodeAuth {auth username password : String}
    (h : decodeAuth auth = .ok (username, password)) :
    ∃ u p, textOf auth = u ++ ':' :: p ∧ ':' ∉ u ∧
      username = String.ofList u ∧ password = String.ofList p := by
  rw [decodeAuth] at h
  split at h
  · by_cases hcolon : ':' ∈ textOf auth
    · obtain ⟨u, p, htext, hfree⟩ := List.eq_append_cons_of_mem hcolon
      rw [htext, Text.span_append_cons hfree] at h
      cases h
      exact ⟨u, p, htext, hfree, rfl, rfl⟩
    · rw [Text.span_of_notMem hcolon] at h
      cases h
  · cases h

/-- What is read from an entry is what it stores. -/
theorem stores_of_credentialsOfEntry {registry : String} {entry : Members Json}
    {found : StoredCredentials} (h : credentialsOfEntry registry entry = .ok found) :
    Stores registry entry found.credentials := by
  -- the cases of `Stores` in their order, each on the failure of those before it
  by_cases htoken : ∃ token, Gives entry "identitytoken" token
  · obtain ⟨token, htoken⟩ := htoken
    rw [credentialsOfEntry_token htoken, Except.ok.injEq] at h
    subst h
    exact .token htoken
  have htoken := not_exists.1 htoken
  by_cases hauth : ∃ auth, Gives entry "auth" auth
  · obtain ⟨auth, hauth⟩ := hauth
    rw [credentialsOfEntry_encoded htoken hauth] at h
    cases hdecode : decodeAuth auth with
    | error defect =>
      rw [hdecode] at h
      cases h
    | ok login =>
      obtain ⟨u, p, htext, hcolon, hu, hp⟩ := split_of_decodeAuth hdecode
      rw [hdecode, Except.map, Except.ok.injEq] at h
      subst h
      rw [hu, hp]
      exact .encoded htoken hauth htext hcolon (givesEmail_found entry)
  have hauth := not_exists.1 hauth
  by_cases hclear : ∃ username password,
      Gives entry "username" username ∧ Gives entry "password" password
  · obtain ⟨username, password, husername, hpassword⟩ := hclear
    rw [credentialsOfEntry_clear htoken hauth husername hpassword, Except.ok.injEq] at h
    subst h
    exact .clear htoken hauth husername hpassword (givesEmail_found entry)
  have hclear : ∀ username password,
      ¬ (Gives entry "username" username ∧ Gives entry "password" password) :=
    fun username password hboth => hclear ⟨username, password, hboth⟩
  rw [credentialsOfEntry_nothing htoken hauth hclear, Except.ok.injEq] at h
  subst h
  exact .nothing htoken hauth hclear

/-! ### What a file stores -/

/-- The entries that are looked at: in the older layout those that are objects. -/
def considered (layout : FileLayout) (entries : Members Json) : Members Json :=
  match layout with
  | .current => entries
  | .legacy => entries.filter (·.2.kind = .object)

/-- The registries of a client config file with their entries: the members of `auths`, and in the
    older layout those members of the file that are objects. -/
def sourceMap (layout : FileLayout) (file : Json) : Members Json :=
  match layout with
  | .current => ((file.get? "auths").bind Json.members?).getD []
  | .legacy => considered .legacy (file.members?.getD [])

/-- A registry and what was read for it: the entry is an object, and the credentials are those that
    it stores. -/
def IsReadFrom (m : String × Json) (r : String × StoredCredentials) : Prop :=
  m.1 = r.1 ∧ ∃ entry, m.2 = .object entry ∧ credentialsOfEntry m.1 entry = .ok r.2

/-- Reading entries to the end finds in turn what each of them stores. -/
theorem forall₂_of_readEntries {layout : FileLayout} {entries : Members Json}
    {read : List (String × StoredCredentials)} (h : readEntries layout entries = (read, none)) :
    List.Forall₂ IsReadFrom (considered layout entries) read := by
  induction entries generalizing read with
  | nil =>
    cases h
    cases layout <;> exact .nil
  | cons m rest ih =>
    obtain ⟨registry, value⟩ := m
    cases value with
    | object entry =>
      rw [readEntries] at h
      cases hentry : credentialsOfEntry registry entry with
      | error defect => simp [hentry] at h
      | ok found =>
        cases hrest : readEntries layout rest with
        | mk tail defect =>
          simp only [hentry, hrest, Prod.mk.injEq] at h
          obtain ⟨rfl, rfl⟩ := h
          have hfound : IsReadFrom (registry, .object entry) (registry, found) :=
            ⟨rfl, entry, rfl, hentry⟩
          cases layout with
          | current => exact .cons hfound (ih hrest)
          | legacy => simpa [considered, Json.kind] using List.Forall₂.cons hfound (ih hrest)
    | _ =>
      -- the current layout reports what is no object, the older one passes over it
      cases layout with
      | current => simp [readEntries] at h
      | legacy =>
        simp only [readEntries] at h
        simpa [considered, Json.kind] using ih h

/-- The registries of a file are the stored entries that are looked at. -/
theorem sourceMap_eq {layout : FileLayout} {members entries : Members Json}
    (h : storedEntries layout members = .ok entries) :
    sourceMap layout (.object members) = considered layout entries := by
  cases layout with
  | legacy =>
    cases h
    rfl
  | current =>
    rw [storedEntries] at h
    simp only [sourceMap, considered, Json.get?, Json.members?, Option.bind_some]
    -- `auths` that are missing or null are empty, and other values are no entries at all
    split at h <;> rename_i hauths
    · cases h
      rw [hauths]
      rfl
    · cases h
      rw [hauths]
      rfl
    · cases h
      rw [hauths]
      rfl
    · cases h

/-- A client config file that is accepted is read registry by registry. -/
theorem forall₂_of_readFile {layout : FileLayout} {file : Json}
    {stored : List (String × StoredCredentials)} (h : (readFile layout file).2 = .ok stored) :
    List.Forall₂ IsReadFrom (sourceMap layout file) stored := by
  cases file with
  | object members =>
    cases hentries : storedEntries layout members with
    | error defect => simp [readFile, hentries] at h
    | ok entries =>
      cases hread : readEntries layout entries with
      | mk read defect =>
        simp only [readFile, hentries, hread] at h
        cases defect with
        | some defect => cases h
        | none =>
          cases h
          rw [sourceMap_eq hentries]
          exact forall₂_of_readEntries hread
  | _ => cases h

/-- The names of what was read are those of the entries. -/
theorem names_of_forall₂ {entries : Members Json} {stored : List (String × StoredCredentials)}
    (h : List.Forall₂ IsReadFrom entries stored) :
    Members.names stored = Members.names entries := by
  induction h with
  | nil => rfl
  | cons hm _ ih =>
    rw [Members.names, Members.names] at ih ⊢
    rw [List.map_cons, List.map_cons, hm.1, ih]

/-- Only `auths` counts in a file of the current layout. -/
theorem readFile_current_congr {file other : Members Json}
    (h : other.get? "auths" = file.get? "auths") :
    (readFile .current (.object other)).2 = (readFile .current (.object file)).2 := by
  have hentries : storedEntries .current other = storedEntries .current file := by
    rw [storedEntries, storedEntries, h]
  rw [readFile, readFile, hentries]
  cases storedEntries .current file <;> rfl

end ImageBuild.Registry
