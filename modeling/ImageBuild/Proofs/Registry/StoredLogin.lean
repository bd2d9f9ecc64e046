import ImageBuild.Proofs.Registry.Stored
import ImageBuild.Proofs.Text.Base64
import ImageBuild.Proofs.Text.Utf8

namespace ImageBuild.Registry

/-!
# Stored logins — base64 texts of a username and a password

Reading a login looks at the form of the text, and then for the first colon in what it denotes, so
there are three outcomes: `decodeAuth_of_split`, `decodeAuth_of_notMem` and
`decodeAuth_of_not_hasForm`.  A text that was written for a login in either alphabet, with or without
its padding, denotes this login (`IsBase64Of.textOf_eq`), so that reading undoes writing.
-/

/-- A value is the base64 text of the UTF-8 bytes of a text, with its digits in either alphabet and
    as much of its padding as one likes. -/
def IsBase64Of (value : String) (text : List Char) : Prop :=
  Text.Base64.Respells (Text.Base64.encode (Text.Utf8.encode text)) value.toList

/-- Such a value has the form of base64. -/
theorem IsBase64Of.isWellFormed {value : String} {text : List Char} (h : IsBase64Of value text) :
    Text.Base64.isWellFormed value.toList = true :=
  Text.Base64.Respells.isWellFormed h (Text.Base64.isWellFormed_encode _)

/-- Such a value denotes the text. -/
theorem IsBase64Of.textOf_eq {value : String} {text : List Char} (h : IsBase64Of value text) :
    textOf value = text := by
  rw [textOf, Text.Base64.Respells.decode_eq h, Text.Base64.decode_encode,
    Text.Utf8.decode_encode]

/-! ### The outcomes -/

variable {auth : String}

/-- What does not have the form of base64 is refused. -/
theorem decodeAuth_of_not_hasForm (h : ¬ Text.Base64.HasForm auth.toList) :
    decodeAuth auth = .error .storedAuthNotBase64 := by
  rw [← Text.Base64.isWellFormed_iff_hasForm] at h
  rw [decodeAuth, if_neg h]

/-- A text that the first colon parts is a username and a password. -/
theorem decodeAuth_of_split (hform : Text.Base64.isWellFormed auth.toList = true)
    {username password : List Char} (htext : textOf auth = username ++ ':' :: password)
    (hcolon : ':' ∉ username) :
    decodeAuth auth = .ok (String.ofList username, String.ofList password) := by
  -- the username ends at the first colon, and the password may hold others
  rw [decodeAuth, if_pos hform, htext, Text.span_append_cons hcolon]

/-- A text without a colon is refused. -/
theorem decodeAuth_of_notMem (hform : Text.Base64.isWellFormed auth.toList = true)
    (hcolon : ':' ∉ textOf auth) : decodeAuth auth = .error .storedAuthWithoutColon := by
  rw [decodeAuth, if_pos hform, Text.span_of_notMem hcolon]

/-- A login is read exactly where a text has the form of base64 and denotes a colon. -/
theorem exists_decodeAuth_iff :
    (∃ login, decodeAuth auth = .ok login) ↔
      Text.Base64.HasForm auth.toList ∧ ':' ∈ textOf auth := by
  constructor
  · rintro ⟨⟨username, password⟩, h⟩
    obtain ⟨u, p, htext, -, -, -⟩ := split_of_decodeAuth h
    refine ⟨?_, by simp [htext]⟩
    by_contra hnot
    rw [decodeAuth_of_not_hasForm hnot] at h
    cases h
  · rintro ⟨hform, hcolon⟩
    obtain ⟨username, password, htext, hfree⟩ := List.eq_append_cons_of_mem hcolon
    exact ⟨_, decodeAuth_of_split ((Text.Base64.isWellFormed_iff_hasForm _).2 hform) htext hfree⟩

/-- A login is refused with an encoding error. -/
theorem kind_of_decodeAuth {e : ClientError} (h : decodeAuth auth = .error e) :
    e.kind = .encoding := by
  unfold decodeAuth at h
  split at h
  · split at h <;> cases h
    rfl
  · cases h
    rfl

/-! ### Reading undoes writing -/

/-- **Stored logins.** The base64 text of a username without a colon, a colon and a password gives
    this username and this password; the base64 text of a text without a colon is refused; and so
    is, for its form, whatever is not digits of the two alphabets with at most two signs of padding
    behind them, and nothing else.  All that is refused is refused with an encoding error. -/
theorem login_of_stored_text (auth : String) :
    (∀ username password : String, ':' ∉ username.toList →
      IsBase64Of auth (username.toList ++ ':' :: password.toList) →
      decodeAuth auth = .ok (username, password)) ∧
    (∀ text, ':' ∉ text → IsBase64Of auth text →
      decodeAuth auth = .error .storedAuthWithoutColon) ∧
    (decodeAuth auth = .error .storedAuthNotBase64 ↔ ¬ Text.Base64.HasForm auth.toList) ∧
    ∀ e, decodeAuth auth = .error e → e.kind = .encoding := by
  refine ⟨fun username password hcolon h => ?_, fun text hcolon h => ?_, ⟨fun h hform => ?_, ?_⟩,
    fun e => kind_of_decodeAuth⟩
  · rw [decodeAuth_of_split h.isWellFormed h.textOf_eq hcolon, String.ofList_toList,
      String.ofList_toList]
  · rw [← h.textOf_eq] at hcolon
    exact decodeAuth_of_notMem h.isWellFormed hcolon
  · -- what has the form is read, and then refused for its colon alone
    rw [← Text.Base64.isWellFormed_iff_hasForm] at hform
    rw [decodeAuth, if_pos hform] at h
    split at h <;> cases h
  · exact decodeAuth_of_not_hasForm

/-- A login with characters of one to four bytes and two colons is read from the standard alphabet
    without its padding.  A text without a colon is refused, and so is padding between digits. -/
theorem login_in_standard_alphabet :
    decodeAuth "w7zDv8O/OjrwkI2Iw78" = .ok ("üÿÿ", ":𐍈ÿ") ∧
      decodeAuth "w7zDvw==" = .error .storedAuthWithoutColon ∧
      decodeAuth "dTp=w" = .error .storedAuthNotBase64 := by
  refine ⟨?_, ?_, ?_⟩
  · refine (login_of_stored_text _).1 "üÿÿ" ":𐍈ÿ" (by decide) ?_
    exact ⟨"w7zDv8O_OjrwkI2Iw78".toList, 1, by decide +kernel, by decide +kernel⟩
  · refine (login_of_stored_text _).2.1 "üÿ".toList (by decide) ?_
    exact ⟨"w7zDvw==".toList, 0, by decide +kernel, by decide +kernel⟩
  · refine (login_of_stored_text _).2.2.1.2 ?_
    rw [← Text.Base64.isWellFormed_iff_hasForm]
    decide

end ImageBuild.Registry
