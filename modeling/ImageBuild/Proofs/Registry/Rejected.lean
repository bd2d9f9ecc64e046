import ImageBuild.Registry.Location
import ImageBuild.Proofs.Registry.StoredLogin
import ImageBuild.Proofs.Registry.StoredPipeline
import ImageBuild.Proofs.Session

namespace ImageBuild.Registry

/-!
# Rejected files — which client config files are read

`Rejected` lists why a client config file is not read, without the reader.  The reader stops at an
entry exactly when this entry is defective (`readEntries_eq_none_iff`), so that it rejects what
`Rejected` lists and nothing else (`readFile_cases`).  All other files give a set with the
registries of the file, each with what its own entry stores (`read_unless_rejected`).
-/

/-- A base64 text of an entry counts and gives no login: there is no identity token before it, and
    it has not the form of base64 or denotes a text without a colon. -/
def HasUnreadableAuth (entry : Members Json) : Prop :=
  (∀ token, ¬ Gives entry "identitytoken" token) ∧
    ∃ auth, Gives entry "auth" auth ∧ (¬ Text.Base64.HasForm auth.toList ∨ ':' ∉ textOf auth)

/-- Why a client config file is not read. -/
inductive Rejected (layout : FileLayout) (file : Json) : Prop
  /-- The file is no object. -/
  | file (h : file.kind ≠ .object)
  /-- In the current layout there are `auths`, but they are neither null nor an object. -/
  | auths {value : Json} (hlayout : layout = .current) (h : file.get? "auths" = some value)
    (hnull : value.kind ≠ .null) (hkind : value.kind ≠ .object)
  /-- In the current layout what is given for a registry is no object. -/
  | value {registry : String} {value : Json} (hlayout : layout = .current)
    (h : (registry, value) ∈ sourceMap layout file) (hkind : value.kind ≠ .object)
  /-- The entry of a registry has a base64 text that gives no login. -/
  | auth {registry : String} {entry : Members Json}
    (h : (registry, .object entry) ∈ sourceMap layout file) (hauth : HasUnreadableAuth entry)

/-- What is given for a registry stops the reader. -/
inductive IsDefective (layout : FileLayout) : Json → Prop
  | value {value : Json} (hlayout : layout = .current) (hkind : value.kind ≠ .object) :
    IsDefective layout value
  | auth {entry : Members Json} (h : HasUnreadableAuth entry) : IsDefective layout (.object entry)

/-! ### One entry -/

section Entry

variable {registry : String} {entry : Members Json}

/-- An entry without a base64 text is read, whatever else it has. -/
theorem exists_credentialsOfEntry_of_no_auth (htoken : ∀ token, ¬ Gives entry "identitytoken" token)
    (hauth : ∀ auth, ¬ Gives entry "auth" auth) :
    ∃ found, credentialsOfEntry registry entry = .ok found := by
  by_cases hclear : ∃ username password,
      Gives entry "username" username ∧ Gives entry "password" password
  · obtain ⟨username, password, husername, hpassword⟩ := hclear
    exact ⟨_, credentialsOfEntry_clear htoken hauth husername hpassword⟩
  · refine ⟨_, credentialsOfEntry_nothing htoken hauth fun username password hboth => hclear ?_⟩
    exact ⟨username, password, hboth⟩

/-- An entry that is not read has no token, and its base64 text is refused. -/
theorem decodeAuth_of_credentialsOfEntry {e : ClientError}
    (h : credentialsOfEntry registry entry = .error e) :
    (∀ token, ¬ Gives entry "identitytoken" token) ∧
      ∃ auth, Gives entry "auth" auth ∧ decodeAuth auth = .error e := by
  have htoken : ∀ token, ¬ Gives entry "identitytoken" token := by
    intro token htoken
    rw [credentialsOfEntry_token htoken] at h
    cases h
  refine ⟨htoken, ?_⟩
  by_cases hauth : ∃ auth, Gives entry "auth" auth
  · obtain ⟨auth, hauth⟩ := hauth
    rw [credentialsOfEntry_encoded htoken hauth] at h
    cases hdecode : decodeAuth auth with
    | error e' =>
      rw [hdecode] at h
      cases h
      exact ⟨auth, hauth, hdecode⟩
    | ok login =>
      rw [hdecode] at h
      cases h
  · obtain ⟨found, hfound⟩ := exists_credentialsOfEntry_of_no_auth htoken (not_exists.1 hauth)
    rw [hfound] at h
    cases h

/-- A base64 text is refused when it has not the form of base64 or denotes no colon. -/
theorem exists_decodeAuth_error_iff {auth : String} :
    (∃ e, decodeAuth auth = .error e) ↔
      ¬ Text.Base64.HasForm auth.toList ∨ ':' ∉ textOf auth := by
  rw [← not_and_or, ← exists_decodeAuth_iff]
  cases decodeAuth auth <;> simp

/-- An entry is not read exactly when it has an unreadable base64 text. -/
theorem exists_credentialsOfEntry_error_iff :
    (∃ e, credentialsOfEntry registry entry = .error e) ↔ HasUnreadableAuth entry := by
  constructor
  · rintro ⟨e, h⟩
    obtain ⟨htoken, auth, hauth, hdecode⟩ := decodeAuth_of_credentialsOfEntry h
    exact ⟨htoken, auth, hauth, exists_decodeAuth_error_iff.1 ⟨e, hdecode⟩⟩
  · rintro ⟨htoken, auth, hauth, hbad⟩
    obtain ⟨e, hdecode⟩ := exists_decodeAuth_error_iff.2 hbad
    exact ⟨e, by rw [credentialsOfEntry_encoded htoken hauth, hdecode]; rfl⟩

/-- An entry is refused with an encoding error. -/
theorem kind_of_credentialsOfEntry {e : ClientError}
    (h : credentialsOfEntry registry entry = .error e) : e.kind = .encoding := by
  obtain ⟨-, auth, -, hdecode⟩ := decodeAuth_of_credentialsOfEntry h
  exact kind_of_decodeAuth hdecode

end Entry

/-! ### All entries -/

variable {layout : FileLayout}

/-- Of an object the entry counts, and of other values the layout. -/
theorem isDefective_object_iff {entry : Members Json} :
    IsDefective layout (.object entry) ↔ HasUnreadableAuth entry := by
  constructor
  · intro h
    cases h with
    | value _ hkind => exact absurd rfl hkind
    | auth h => exact h
  · exact .auth

/-- A value that is no object stops the reader in the current layout only. -/
theorem isDefective_iff_of_ne {value : Json} (h : value.kind ≠ .object) :
    IsDefective layout value ↔ layout = .current := by
  constructor
  · intro hdefect
    cases hdefect with
    | value hlayout => exact hlayout
    | auth => exact absurd rfl h
  · exact fun hlayout => .value hlayout h

/-- The reader goes to the end exactly when no entry stops it. -/
theorem readEntries_eq_none_iff {entries : Members Json} :
    (readEntries layout entries).2 = none ↔ ∀ m ∈ entries, ¬ IsDefective layout m.2 := by
  -- the induction follows the reader: what is no object stops it, or is passed over
  induction entries with
  | nil => simp [readEntries]
  | cons m rest ih =>
    obtain ⟨registry, value⟩ := m
    rw [List.forall_mem_cons]
    cases value with
    | object entry =>
      have hentry : IsDefective layout (.object entry) ↔
          ∃ e, credentialsOfEntry registry entry = .error e := by
        rw [isDefective_object_iff, exists_credentialsOfEntry_error_iff]
      rw [hentry, ← ih, readEntries]
      cases credentialsOfEntry registry entry <;> simp
    | _ =>
      rw [isDefective_iff_of_ne (by simp [Json.kind]), ← ih]
      cases layout <;> simp [readEntries]

/-- The reader stops with an encoding error. -/
theorem kind_of_readEntries {entries : Members Json} {e : ClientError}
    (h : (readEntries layout entries).2 = some e) : e.kind = .encoding := by
  induction entries with
  | nil => simp [readEntries] at h
  | cons m rest ih =>
    obtain ⟨registry, value⟩ := m
    cases value with
    | object entry =>
      rw [readEntries] at h
      cases hentry : credentialsOfEntry registry entry with
      | error defect =>
        rw [hentry] at h
        cases h
        exact kind_of_credentialsOfEntry hentry
      | ok found =>
        rw [hentry] at h
        exact ih h
    | _ =>
      cases layout with
      | current =>
        simp only [readEntries, Option.some.injEq] at h
        subst h
        rfl
      | legacy =>
        simp only [readEntries] at h
        exact ih h

/-! ### A file -/

/-- An object has entries unless it has `auths` of another kind, in the current layout. -/
theorem storedEntries_eq_error_iff {members : Members Json} {e : ClientError} :
    storedEntries layout members = .error e ↔
      e = .authsNotObject ∧ layout = .current ∧ ∃ value,
        (Json.object members).get? "auths" = some value ∧ value.kind ≠ .null ∧
          value.kind ≠ .object := by
  have hget : (Json.object members).get? "auths" = members.get? "auths" := rfl
  rw [hget]
  cases layout with
  | legacy => simp [storedEntries]
  | current =>
    rw [storedEntries]
    cases members.get? "auths" with
    | none => simp
    | some value => cases value <;> simp [Json.kind, eq_comm]

/-- Objects among the entries are looked at in both layouts. -/
theorem mem_considered_object_iff {entries : Members Json} {registry : String}
    {entry : Members Json} :
    (registry, .object entry) ∈ considered layout entries ↔
      (registry, .object entry) ∈ entries := by
  cases layout <;> simp [considered, Json.kind]

/-- Where the entries of a file are found, they alone decide. -/
theorem rejected_iff_of_storedEntries {members entries : Members Json}
    (h : storedEntries layout members = .ok entries) :
    Rejected layout (.object members) ↔ ∃ m ∈ entries, IsDefective layout m.2 := by
  have hsource := sourceMap_eq h
  constructor
  · intro hrejected
    cases hrejected with
    | file hkind => exact absurd rfl hkind
    | auths hlayout hvalue hnull hkind =>
      have herror := storedEntries_eq_error_iff.2 ⟨rfl, hlayout, _, hvalue, hnull, hkind⟩
      rw [h] at herror
      cases herror
    | value hlayout hmem hkind =>
      subst hlayout
      rw [hsource] at hmem
      exact ⟨_, hmem, .value rfl hkind⟩
    | auth hmem hauth =>
      rw [hsource, mem_considered_object_iff] at hmem
      exact ⟨_, hmem, .auth hauth⟩
  · rintro ⟨⟨registry, value⟩, hmem, hdefect⟩
    cases hdefect with
    | value hlayout hkind =>
      subst hlayout
      exact .value rfl (by rw [hsource]; exact hmem) hkind
    | auth hauth => exact .auth (by rw [hsource, mem_considered_object_iff]; exact hmem) hauth

/-- A file is either rejected and refused with an encoding error, or neither rejected nor
    refused. -/
theorem readFile_cases (layout : FileLayout) (file : Json) :
    (Rejected layout file ∧ ∃ e, (readFile layout file).2 = .error e ∧ e.kind = .encoding) ∨
      (¬ Rejected layout file ∧ ∃ stored, (readFile layout file).2 = .ok stored) := by
  cases file with
  | object members =>
    cases hentries : storedEntries layout members with
    | error e =>
      obtain ⟨rfl, hlayout, value, hvalue, hnull, hkind⟩ := storedEntries_eq_error_iff.1 hentries
      refine .inl ⟨.auths hlayout hvalue hnull hkind, .authsNotObject, ?_, rfl⟩
      rw [readFile, hentries]
    | ok entries =>
      have hstop : (readEntries layout entries).2 = none ↔ _ := readEntries_eq_none_iff
      have hkind : ∀ e, (readEntries layout entries).2 = some e → e.kind = .encoding :=
        fun e => kind_of_readEntries
      rw [rejected_iff_of_storedEntries hentries]
      simp only [readFile, hentries]
      cases hread : readEntries layout entries with
      | mk read defect =>
        rw [hread] at hstop hkind
        cases defect with
        | none =>
          refine .inr ⟨?_, read, rfl⟩
          rintro ⟨m, hm, hdefect⟩
          exact hstop.1 rfl m hm hdefect
        | some e =>
          refine .inl ⟨?_, e, rfl, hkind e rfl⟩
          by_contra hnone
          exact absurd (hstop.2 fun m hm hdefect => hnone ⟨m, hm, hdefect⟩) (by simp)
  | _ => exact .inl ⟨.file (by simp [Json.kind]), _, rfl, rfl⟩

/-- In the older layout only the objects of a file count. -/
theorem readEntries_considered (entries : Members Json) :
    readEntries .legacy (considered .legacy entries) = readEntries .legacy entries := by
  induction entries with
  | nil => rfl
  | cons m rest ih =>
    obtain ⟨registry, value⟩ := m
    rw [considered] at ih ⊢
    cases value with
    | object entry =>
      rw [List.filter_cons_of_pos (by simp [Json.kind]), readEntries, readEntries, ih]
    | _ =>
      rw [List.filter_cons_of_neg (by simp [Json.kind]), ih]
      simp [readEntries]

/-- In the older layout files with the same objects give the same. -/
theorem readFile_legacy_congr {members others : Members Json}
    (h : considered .legacy others = considered .legacy members) :
    (readFile .legacy (.object others)).2 = (readFile .legacy (.object members)).2 := by
  have hread : readEntries .legacy others = readEntries .legacy members := by
    rw [← readEntries_considered others, h, readEntries_considered]
  simp only [readFile, storedEntries, hread]

/-- Erasing a member that is no object changes none of the objects. -/
theorem considered_erase {members : Members Json} (hlisted : members.IsListed) {registry : String}
    {value : Json} (hmem : (registry, value) ∈ members) (hkind : value.kind ≠ .object) :
    considered .legacy (members.erase registry) = considered .legacy members ∧
      registry ∉ (considered .legacy members).names := by
  -- the name is listed once, so that an object is under another one
  have hother : ∀ m ∈ members, m.2.kind = .object → m.1 ≠ registry := by
    rintro m hm hobject rfl
    have hsame : some m.2 = some value := by
      rw [← hlisted.get?_of_mem hm, hlisted.get?_of_mem hmem]
    rw [Option.some.inj hsame] at hobject
    exact hkind hobject
  constructor
  · rw [considered, considered, Members.erase, List.filter_filter]
    refine List.filter_congr fun m hm => ?_
    by_cases hobject : m.2.kind = .object
    · simp [hobject, hother m hm hobject]
    · simp [hobject]
  · rw [considered, Members.names, List.mem_map]
    rintro ⟨m, hm, rfl⟩
    obtain ⟨hm, hobject⟩ := List.mem_filter.1 hm
    exact hother m hm (by simpa using hobject) rfl

/-! ### The set -/

/-- What is stored for a registry is an object without a member of the reserved name. -/
theorem StoredCredentials.toJson_unreserved (found : StoredCredentials) :
    ∃ members, found.toJson = .object members ∧
      Members.has members Members.reservedName = false := by
  cases found <;> exact ⟨_, rfl, rfl⟩

/-- Stored credentials add their registries to a source, but for the reserved name. -/
theorem mem_names_foldl_assign {stored : List (String × StoredCredentials)}
    {own : Members (Option Json)} {fallback : Fallback}
    (hown : Members.reservedName ∉ own.names) (hfallback : fallback.freesReservedName = false)
    (registry : String) :
    registry ∈ Members.names ((stored.map fun r => (r.1, some r.2.toJson)).foldl
        (fun s m => Source.assign s.1 s.2 m.1 m.2) (own, fallback)).1 ↔
      registry ∈ own.names ∨
        (registry ≠ Members.reservedName ∧ registry ∈ Members.names stored) := by
  induction stored generalizing own fallback with
  | nil => simp [Members.names]
  | cons r stored ih =>
    have hnames : Members.names (r :: stored) = r.1 :: Members.names stored := rfl
    rw [List.map_cons, List.foldl_cons, hnames, List.mem_cons]
    by_cases hreserved : r.1 = Members.reservedName
    · -- the reserved name lends its members, which do not free it
      obtain ⟨members, hobject, hmembers⟩ := r.2.toJson_unreserved
      have hnew : own.has Members.reservedName = false := by
        rw [Bool.eq_false_iff, Ne, Members.has_iff_mem_names]
        exact hown
      have hassign : Source.assign own fallback r.1 (some r.2.toJson) = (own, .lent members) := by
        rw [hobject, hreserved, Source.assign, if_pos ⟨rfl, by simp [hnew], by simp [hfallback]⟩]
      have hlent : (Fallback.lent members).freesReservedName = false := hmembers
      rw [hassign, ih hown hlent, hreserved]
      have hne : ∀ p : Prop, (registry ≠ Members.reservedName ∧
          (registry = Members.reservedName ∨ p)) ↔ (registry ≠ Members.reservedName ∧ p) :=
        fun p => and_congr_right fun hne => or_iff_right hne
      rw [hne]
    · have hnew : Members.reservedName ∉ (own.insert r.1 (some r.2.toJson)).names := by
        rw [Members.mem_names_insert]
        exact not_or.2 ⟨Ne.symm hreserved, hown⟩
      rw [Source.assign_of_ne hreserved, ih hnew hfallback, Members.mem_names_insert]
      by_cases hsame : registry = r.1
      · simp [hsame, hreserved]
      · simp [hsame]

/-- The registries of a source are those that were stored, but for the reserved name. -/
theorem mem_registries_sourceOfStored {stored : List (String × StoredCredentials)}
    (registry : String) :
    registry ∈ (sourceOfStored stored).registries ↔
      registry ≠ Members.reservedName ∧ registry ∈ Members.names stored := by
  have hnone : Members.reservedName ∉ Members.names ([] : Members (Option Json)) := by
    simp [Members.names]
  have hassigned : registry ∈ (sourceOfStored stored).registries ↔ _ :=
    mem_names_foldl_assign hnone (show Fallback.usual.freesReservedName = false from rfl) registry
  simpa [Members.names] using hassigned

/-! ### The outcome -/

/-- Reading a file fails with what is wrong with it and changes nothing else of the result. -/
theorem run_readConfig (layout : FileLayout) (file : Json) (s : Session) :
    ((readConfig layout file).run s).1 = (readFile layout file).2.mapError Failure.client := by
  cases hread : readFile layout file with
  | mk notices result =>
    obtain ⟨s', hs'⟩ := Action.exists_run_logAll (notices.map lineOf) s
    have hrun : (readConfig layout file).run s =
        (Action.logAll (notices.map lineOf) >>= fun _ => Action.ofClient result).run s := by
      rw [readConfig, hread]
    rw [hrun, Action.run_bind, hs']
    cases result <;> rfl

/-- What comes of reading a file was read from it. -/
theorem ok_of_run_readConfig {layout : FileLayout} {file : Json} {s : Session}
    {stored : List (String × StoredCredentials)}
    (h : ((readConfig layout file).run s).1 = .ok stored) :
    (readFile layout file).2 = .ok stored := by
  rw [run_readConfig] at h
  cases hread : (readFile layout file).2 with
  | error e =>
    rw [hread] at h
    cases h
  | ok found =>
    rw [hread] at h
    cases h
    rfl

/-- For every entry that is looked at something was read. -/
theorem exists_mem_of_forall₂ {entries : Members Json} {stored : List (String × StoredCredentials)}
    (h : List.Forall₂ IsReadFrom entries stored) {m : String × Json} (hm : m ∈ entries) :
    ∃ r ∈ stored, IsReadFrom m r := by
  induction h with
  | nil => cases hm
  | cons hread _ ih =>
    rcases List.mem_cons.1 hm with rfl | hm
    · exact ⟨_, List.mem_cons_self, hread⟩
    · obtain ⟨r, hr, hread⟩ := ih hm
      exact ⟨r, List.mem_cons_of_mem _ hr, hread⟩

/-- **Rejected files.**  Reading a client config file fails exactly when the file is rejected, and
    then with an encoding error.  Any other file gives a set: its registries are those of the file,
    each has what its own entry stores, and an identity token is taken whatever else the entry has.
    In the older layout a member that is no object changes nothing, and is not in the set. -/
theorem read_unless_rejected (layout : FileLayout) (file : Json) (s : Session) :
    ((∃ f, ((readConfig layout file).run s).1 = .error f) ↔ Rejected layout file) ∧
    (∀ f, ((readConfig layout file).run s).1 = .error f → ∃ e, f = .client e ∧ e.kind = .encoding) ∧
    (¬ Rejected layout file → ∃ stored, ((readConfig layout file).run s).1 = .ok stored ∧
      Arrives (sourceMap layout file) (stored.map fun r => (r.1, r.2.credentials)) ∧
      (∀ registry, registry ∈ (sourceOfStored stored).registries ↔
        registry ≠ Members.reservedName ∧ registry ∈ (sourceMap layout file).names) ∧
      ∀ registry entry token, (registry, .object entry) ∈ sourceMap layout file →
        Gives entry "identitytoken" token → (registry, .token token registry) ∈ stored) ∧
    ∀ members registry value, Members.IsListed members → (registry, value) ∈ members →
      value.kind ≠ .object →
      ((readConfig .legacy (.object (Members.erase members registry))).run s).1 =
        ((readConfig .legacy (.object members)).run s).1 ∧
      ∀ stored, ((readConfig .legacy (.object members)).run s).1 = .ok stored →
        registry ∉ (sourceOfStored stored).registries := by
  refine ⟨?_, ?_, fun haccepted => ?_, fun members registry value hlisted hmem hkind => ?_⟩
  · rw [run_readConfig]
    rcases readFile_cases layout file with ⟨hrejected, e, he, -⟩ | ⟨haccepted, stored, hstored⟩
    · rw [he]
      exact iff_of_true ⟨.client e, rfl⟩ hrejected
    · rw [hstored]
      exact iff_of_false (fun ⟨f, hf⟩ => nomatch hf) haccepted
  · intro f hf
    rw [run_readConfig] at hf
    rcases readFile_cases layout file with ⟨-, e, he, hkind⟩ | ⟨-, stored, hstored⟩
    · rw [he] at hf
      cases hf
      exact ⟨e, rfl, hkind⟩
    · rw [hstored] at hf
      cases hf
  · obtain ⟨stored, hstored⟩ := ((readFile_cases layout file).resolve_left fun h => haccepted h.1).2
    have hall := forall₂_of_readFile hstored
    refine ⟨stored, by rw [run_readConfig, hstored]; rfl, arrives_of_forall₂ hall,
      fun registry => ?_, fun registry entry token hmem htoken => ?_⟩
    · rw [mem_registries_sourceOfStored, names_of_forall₂ hall]
    · obtain ⟨⟨name, found⟩, hr, rfl, entry', hentry, hfound⟩ := exists_mem_of_forall₂ hall hmem
      cases hentry
      rw [credentialsOfEntry_token htoken] at hfound
      cases hfound
      exact hr
  · obtain ⟨hsame, hnot⟩ := considered_erase hlisted hmem hkind
    refine ⟨by rw [run_readConfig, run_readConfig, readFile_legacy_congr hsame],
      fun stored hstored => ?_⟩
    have hread := ok_of_run_readConfig hstored
    rw [mem_registries_sourceOfStored, names_of_forall₂ (forall₂_of_readFile hread)]
    exact fun h => hnot h.2

/-- A file with a member that is no object, and an entry whose base64 text is none but comes after
    an identity token. -/
def shadowedMembers : Members Json :=
  [("note", .string "no registry"),
    ("r.example", .object [("auth", .string "!"), ("identitytoken", .string "t")])]

/-- The older layout passes over what is no object, and the token over the text behind it.  As
    `auths` of the current layout the same members are rejected. -/
theorem shadowed_text_passes_over :
    ¬ Rejected .legacy (.object shadowedMembers) ∧
      (∃ stored, ((readConfig .legacy (.object shadowedMembers)).run {}).1 = .ok stored ∧
        ("r.example", .token "t" "r.example") ∈ stored ∧
        "note" ∉ (sourceOfStored stored).registries) ∧
      ∃ f, ((readConfig .current (.object [("auths", .object shadowedMembers)])).run {}).1 =
        .error f := by
  have hread : ((readConfig .legacy (.object shadowedMembers)).run {}).1 =
      .ok [("r.example", .token "t" "r.example")] := by rfl
  obtain ⟨hiff, -, hset, hlegacy⟩ := read_unless_rejected .legacy (.object shadowedMembers) {}
  have haccepted : ¬ Rejected .legacy (.object shadowedMembers) := by
    intro hrejected
    obtain ⟨f, hf⟩ := hiff.2 hrejected
    rw [hread] at hf
    cases hf
  have hlisted : Members.IsListed shadowedMembers := by decide
  obtain ⟨stored, hstored, -, -, htoken⟩ := hset haccepted
  obtain ⟨-, hnote⟩ := hlegacy shadowedMembers "note" (.string "no registry") hlisted
    (by simp [shadowedMembers]) (by simp [Json.kind])
  have hentry : ("r.example", Json.object [("auth", .string "!"), ("identitytoken", .string "t")]) ∈
      sourceMap .legacy (.object shadowedMembers) := by
    simp [sourceMap, considered, shadowedMembers, Json.members?, Json.kind]
  have hnoObject : ("note", Json.string "no registry") ∈
      sourceMap .current (.object [("auths", .object shadowedMembers)]) := by
    simp [sourceMap, shadowedMembers, Json.get?, Json.members?]
  exact ⟨haccepted, ⟨stored, hstored, htoken _ _ _ hentry ⟨rfl, by decide⟩, hnote _ hstored⟩,
    (read_unless_rejected .current _ {}).1.2 (.value rfl hnoObject (by simp [Json.kind]))⟩

end ImageBuild.Registry
