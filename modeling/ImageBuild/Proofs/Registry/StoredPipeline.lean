import ImageBuild.Proofs.Registry.HeaderRoundTrip
import ImageBuild.Proofs.Registry.Stored

namespace ImageBuild.Registry

/-!
# Stored credentials on their way to the daemon

What is read from a client config file makes a source with the same registries in the same order
(`sourceOfStored_eq`), whose header value decodes to the credentials that were read
(`encode_sourceOfStored`).
-/

/-! ### What is stored is sent -/

/-- The members that stored credentials make are texts and nulls. -/
theorem StoredCredentials.isFieldValue_toJson {found : StoredCredentials} {name : String} {v : Json}
    (h : found.toJson.get? name = some v) : IsFieldValue v := by
  obtain ⟨members, hmembers, hv⟩ := Option.bind_eq_some_iff.1 h
  have hall : ∀ m ∈ members, IsFieldValue m.2 := by
    cases found with
    | login _ _ email _ => cases email <;> cases hmembers <;> simp [IsFieldValue]
    | _ => cases hmembers; simp [IsFieldValue]
  exact hall _ (Members.mem_of_get? hv)

/-- Stored credentials make a well-formed entry. -/
theorem StoredCredentials.isCredentialEntry_toJson (found : StoredCredentials) :
    IsCredentialEntry found.toJson := by
  refine ⟨?_, fun name _ v hv => isFieldValue_toJson hv⟩
  cases found <;> rfl

/-- The entry that stored credentials make stands for these credentials. -/
theorem StoredCredentials.credentialsOf_toJson (found : StoredCredentials) :
    credentialsOf found.toJson = found.credentials := by
  cases found with
  | token => rfl
  | nothing => rfl
  | login _ _ email _ => cases email <;> rfl

/-- The source of the credentials that a client config file stores has its registries in their
    order. -/
theorem sourceOfStored_eq {stored : List (String × StoredCredentials)}
    (hlisted : Members.IsListed stored) (hnames : ∀ r ∈ stored, r.1 ≠ Members.reservedName) :
    sourceOfStored stored = Source.ofJson (.object (stored.map fun r => (r.1, r.2.toJson))) := by
  have hentries : Members.IsListed (stored.map fun r => (r.1, some r.2.toJson)) :=
    (Members.isListed_map fun found : StoredCredentials => some found.toJson).2 hlisted
  rw [sourceOfStored, Source.ofEntries_of_isListed hentries, Source.ofJson, List.map_map]
  · rfl
  · intro m hm
    obtain ⟨r, hr, rfl⟩ := List.mem_map.1 hm
    exact hnames r hr

/-- Stored credentials are encoded and decode to themselves. -/
theorem encode_sourceOfStored {stored : List (String × StoredCredentials)}
    (hlisted : Members.IsListed stored) (hnames : ∀ r ∈ stored, r.1 ≠ Members.reservedName) :
    ∃ header, encode (sourceOfStored stored) = .ok header ∧
      decode header = .ok (stored.map fun r => (r.1, r.2.credentials)) := by
  have hset : IsCredentialSet (stored.map fun r => (r.1, r.2.toJson)) := by
    constructor
    · exact (Members.isListed_map StoredCredentials.toJson).2 hlisted
    · intro m hm
      obtain ⟨r, hr, rfl⟩ := List.mem_map.1 hm
      exact hnames r hr
    · intro m hm
      obtain ⟨r, -, rfl⟩ := List.mem_map.1 hm
      exact r.2.isCredentialEntry_toJson
  obtain ⟨hencode, hdecode⟩ := encode_of_isCredentialSet hset
  rw [← sourceOfStored_eq hlisted hnames] at hencode
  refine ⟨_, hencode, hdecode.trans ?_⟩
  simp [StoredCredentials.credentialsOf_toJson]

/-! ### The way to the daemon -/

/-- A set has the registries of a source map in the same order, and for each of them what its own
    entry stores. -/
def Arrives (entries : Members Json) (set : CredentialSet) : Prop :=
  List.Forall₂ (fun m c => m.1 = c.1 ∧ ∃ entry, m.2 = .object entry ∧ Stores m.1 entry c.2)
    entries set

/-- What was read arrives. -/
theorem arrives_of_forall₂ {entries : Members Json} {stored : List (String × StoredCredentials)}
    (h : List.Forall₂ IsReadFrom entries stored) :
    Arrives entries (stored.map fun r => (r.1, r.2.credentials)) := by
  rw [Arrives, List.forall₂_map_right_iff]
  refine h.imp fun m r hr => ?_
  obtain ⟨hname, entry, hentry, hfound⟩ := hr
  exact ⟨hname, entry, hentry, stores_of_credentialsOfEntry hfound⟩

/-- One set arrives of what entries store. -/
theorem Arrives.unique {entries : Members Json} {set set' : CredentialSet}
    (h : Arrives entries set) (h' : Arrives entries set') : set = set' := by
  induction h generalizing set' with
  | nil =>
    cases h'
    rfl
  | cons hm _ ih =>
    cases h' with
    | cons hn hrest =>
      obtain ⟨hname, entry, hentry, hstores⟩ := hm
      obtain ⟨hname', entry', hentry', hstores'⟩ := hn
      obtain rfl : entry = entry' := by simpa [hentry] using hentry'
      rw [ih hrest, Prod.ext (hname.symm.trans hname') (hstores.unique hstores')]

/-- **Stored credentials.** What is read from a client config file is encoded, and the header value
    decodes to the registries of the file in the same order, each with what its own entry stores,
    and to nothing else.  In the current layout only `auths` counts. -/
theorem stored_credentials_arrive (layout : FileLayout) (file : Json)
    (stored : List (String × StoredCredentials))
    (hlisted : (sourceMap layout file).IsListed)
    (hnames : ∀ m ∈ sourceMap layout file, m.1 ≠ Members.reservedName)
    (hread : (readFile layout file).2 = .ok stored) :
    (∃ header set, encode (sourceOfStored stored) = .ok header ∧ decode header = .ok set ∧
      Arrives (sourceMap layout file) set ∧
      ∀ other, Arrives (sourceMap layout file) other → other = set) ∧
    (layout = .current → ∀ other, other.kind = .object → other.get? "auths" = file.get? "auths" →
      (readFile layout other).2 = .ok stored) := by
  have hall := forall₂_of_readFile hread
  have hsame := names_of_forall₂ hall
  refine ⟨?_, ?_⟩
  · -- registries that were read have the names of the entries, so that the order carries over
    have hnames' : ∀ r ∈ stored, r.1 ≠ Members.reservedName := by
      intro r hr
      have hmem : r.1 ∈ Members.names stored := List.mem_map_of_mem hr
      rw [hsame] at hmem
      obtain ⟨m, hm, heq⟩ := List.mem_map.1 hmem
      exact heq ▸ hnames m hm
    obtain ⟨header, hencode, hdecode⟩ :=
      encode_sourceOfStored ((Members.isListed_congr hsame).2 hlisted) hnames'
    have harrives := arrives_of_forall₂ hall
    exact ⟨header, _, hencode, hdecode, harrives, fun _ hother => hother.unique harrives⟩
  · rintro rfl other hkind hauths
    cases other with
    | object members =>
      cases file with
      | object fileMembers => exact (readFile_current_congr hauths).trans hread
      | _ => cases hread
    | _ => cases hkind

/-- A file with an entry of every kind, next to members that do not count. -/
def mixedFile : Json :=
  .object [("auths", .object
    [("a.example", .object [("identitytoken", .string "t0"), ("auth", .string "dTpwOnE=")]),
      ("b.example", .object [("auth", .string "dTpwOnE="), ("email", .string "u@b.example")]),
      ("c.example", .object [("username", .string "u"), ("password", .string "p")]),
      ("d.example", .object [("username", .string "u"), ("password", .string "")])]),
    ("HttpHeaders", .object [])]

/-- What is read from the mixed file. -/
def mixedFileStored : List (String × StoredCredentials) :=
  [("a.example", .token "t0" "a.example"),
    ("b.example", .login "u" "p:q" (some "u@b.example") "b.example"),
    ("c.example", .login "u" "p" none "c.example"),
    ("d.example", .nothing)]

/-- The entries of the mixed file arrive. -/
theorem mixedFile_arrives :
    (readFile .current mixedFile).2 = .ok mixedFileStored ∧
      ∃ header set, encode (sourceOfStored mixedFileStored) = .ok header ∧
        decode header = .ok set ∧ Arrives (sourceMap .current mixedFile) set ∧
        ∀ other, Arrives (sourceMap .current mixedFile) other → other = set := by
  have hread : (readFile .current mixedFile).2 = .ok mixedFileStored := by rfl
  exact ⟨hread, (stored_credentials_arrive .current mixedFile mixedFileStored (by decide)
    (by decide) hread).1⟩

end ImageBuild.Registry
