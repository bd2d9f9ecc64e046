import ImageBuild.Registry.Header
import ImageBuild.Proofs.Text.Base64

namespace ImageBuild.Registry

/-!
# The form of header values — digits of one alphabet, and readable in both

A header value is the base64 text of the bytes of a printed credential set (`exists_of_encode`), and
so has the form that such texts have.  Reading it does not see which alphabet a digit is in and
whether padding is there (`decode_of_respells`), so that a proxy may rewrite both.
-/

/-- What is encoded has passed its check, and is the header value of the set that it stands for. -/
theorem exists_of_encode {source : Source} {header : String} (h : encode source = .ok header) :
    ∃ set, source.check = .ok set ∧ header = headerOf set := by
  cases hcheck : source.check with
  | error e =>
    rw [encode, hcheck] at h
    cases h
  | ok set =>
    rw [encode, hcheck] at h
    cases h
    exact ⟨set, rfl, rfl⟩

/-- Every spelling of a well-formed value is decoded alike. -/
theorem decode_of_respells {value other : String}
    (hvalue : Text.Base64.isWellFormed value.toList = true)
    (h : Text.Base64.Respells value.toList other.toList) : decode other = decode value := by
  rw [decode, decode, h.isWellFormed hvalue, hvalue, textOf, textOf, h.decode_eq]

/-- **The form of header values.** A header value is digits of the URL-safe alphabet, followed by the
    padding that the number of bytes of the printed set asks for, at most two signs, and its length
    is a multiple of four.  A value that has some digits in the other alphabet and less padding is
    decoded alike. -/
theorem header_form_and_spellings {source : Source} {header : String}
    (h : encode source = .ok header) :
    (∃ set digits, source.check = .ok set ∧
      let bytes := (Text.Utf8.encode (Json.print (CredentialSet.toJson set))).length
      let padding := (3 - bytes % 3) % 3
      header.toList = digits ++ List.replicate padding '=' ∧ padding ≤ 2 ∧
      (∀ c ∈ digits, Text.Base64.IsUrlSafe c) ∧ header.length % 4 = 0) ∧
    ∀ other : String, Text.Base64.Respells header.toList other.toList →
      decode other = decode header := by
  obtain ⟨set, hcheck, rfl⟩ := exists_of_encode h
  have htext : (headerOf set).toList =
      Text.Base64.encode (Text.Utf8.encode (Json.print (CredentialSet.toJson set))) :=
    String.toList_ofList
  obtain ⟨digits, hform, hdigits, hlength⟩ :=
    Text.Base64.form_encode (Text.Utf8.encode (Json.print (CredentialSet.toJson set)))
  refine ⟨⟨set, digits, hcheck, ?_, ?_, hdigits, ?_⟩, fun other hother => ?_⟩
  · rw [htext, hform]
  · omega
  · rw [← String.length_toList, htext, hlength]
  · refine decode_of_respells ?_ hother
    rw [htext]
    exact Text.Base64.isWellFormed_encode _

/-- Credentials whose header value has both special digits and padding. -/
def specialDigits : Source :=
  .ofJson (.object [("r", .object [("username", .string "~~~"), ("password", .string "???")])])

/-- The header value is decoded alike with one of the two digits in the other alphabet and without its
    padding. -/
theorem special_digits_respelled :
    encode specialDigits = .ok "eyJyIjp7InVzZXJuYW1lIjoifn5-IiwicGFzc3dvcmQiOiI_Pz8ifX0=" ∧
      decode "eyJyIjp7InVzZXJuYW1lIjoifn5+IiwicGFzc3dvcmQiOiI_Pz8ifX0" =
        decode "eyJyIjp7InVzZXJuYW1lIjoifn5-IiwicGFzc3dvcmQiOiI_Pz8ifX0=" := by
  have hencode : encode specialDigits =
      .ok "eyJyIjp7InVzZXJuYW1lIjoifn5-IiwicGFzc3dvcmQiOiI_Pz8ifX0=" := by rfl
  refine ⟨hencode, (header_form_and_spellings hencode).2 _ ?_⟩
  exact ⟨"eyJyIjp7InVzZXJuYW1lIjoifn5-IiwicGFzc3dvcmQiOiI_Pz8ifX0".toList, 1, by decide +kernel,
    by decide +kernel⟩

end ImageBuild.Registry
