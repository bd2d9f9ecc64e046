import ImageBuild.Proofs.Registry.StoredLogin
import ImageBuild.Proofs.Text.Substitution

namespace ImageBuild.Registry

/-!
# Logins and their bytes — what reading a stored login keeps

A stored login denotes bytes, and the first colon among these parts them (`decodeAuth_of_bytes`).
Each part is read for itself: one that is UTF-8 keeps its bytes, and in any other there is a
replacement character, so that the login is not the one that was stored (`login_of_bytes`).
-/

open Text (replacement)
open Text.Utf8 (IsUtf8)

/-- The bytes that a base64 text denotes. -/
def denoted (auth : String) : List UInt8 := Text.Base64.decode auth.toList

/-- The byte of a colon. -/
def colon : UInt8 := 0x3A

/-- A text is read from bytes: it has these bytes, or stands for bytes that no text has. -/
structure IsReadingOf (text : String) (bytes : List UInt8) : Prop where
  kept : IsUtf8 bytes → Text.Utf8.encode text.toList = bytes
  replaced : ¬ IsUtf8 bytes → replacement ∈ text.toList

/-- A colon is the character of its byte. -/
theorem ofNat_colon : Char.ofNat colon.toNat = ':' := by decide

/-- The bytes of a text that is written in base64 are those that are denoted. -/
theorem denoted_of_respells {auth : String} {bytes : List UInt8}
    (h : Text.Base64.Respells (Text.Base64.encode bytes) auth.toList) : denoted auth = bytes := by
  rw [denoted, h.decode_eq, Text.Base64.decode_encode]

/-- What is read of bytes is a reading of them. -/
theorem isReadingOf_decode (bytes : List UInt8) :
    IsReadingOf (String.ofList (Text.Utf8.decode bytes)) bytes where
  kept h := by
    rw [String.toList_ofList]
    exact Text.Utf8.encode_decode_iff.2 h
  replaced h := by
    rw [String.toList_ofList]
    exact Text.Utf8.replacement_mem_decode h

/-- There is a colon in what bytes are read as exactly when its byte is among them. -/
theorem colon_mem_textOf_iff (auth : String) : ':' ∈ textOf auth ↔ colon ∈ denoted auth := by
  rw [← ofNat_colon]
  exact Text.Utf8.mem_decode_iff (by decide)

/-- The first colon among the bytes parts them into username and password. -/
theorem decodeAuth_of_bytes {auth : String} (hform : Text.Base64.isWellFormed auth.toList = true)
    {before after : List UInt8} (hbytes : denoted auth = before ++ colon :: after)
    (hcolon : colon ∉ before) :
    decodeAuth auth = .ok (String.ofList (Text.Utf8.decode before),
      String.ofList (Text.Utf8.decode after)) := by
  refine decodeAuth_of_split hform ?_ ?_
  · rw [textOf, ← denoted, hbytes, Text.Utf8.decode_append_ascii (by decide), ofNat_colon]
  · rw [← ofNat_colon]
    exact fun hmem => hcolon ((Text.Utf8.mem_decode_iff (by decide)).1 hmem)

/-- **Logins and their bytes.** A stored login is read exactly when it has the form of base64 and
    denotes bytes with a colon among them, and what is not read is refused with an encoding error.
    The username is read from the bytes before the first colon and the password from those behind
    it: each has the bytes that it was read from if these are UTF-8, and a replacement character in
    it otherwise.  The whole login has the bytes that were denoted exactly when they are UTF-8. -/
theorem login_of_bytes (auth : String) :
    ((∃ login, decodeAuth auth = .ok login) ↔
      Text.Base64.HasForm auth.toList ∧ colon ∈ denoted auth) ∧
    (∀ e, decodeAuth auth = .error e → e.kind = .encoding) ∧
    ∀ username password, decodeAuth auth = .ok (username, password) →
      (∃ before after, denoted auth = before ++ colon :: after ∧ colon ∉ before ∧
        IsReadingOf username before ∧ IsReadingOf password after) ∧
      (Text.Utf8.encode (username.toList ++ ':' :: password.toList) = denoted auth ↔
        IsUtf8 (denoted auth)) := by
  have hread : (∃ login, decodeAuth auth = .ok login) ↔
      Text.Base64.HasForm auth.toList ∧ colon ∈ denoted auth := by
    rw [exists_decodeAuth_iff, colon_mem_textOf_iff]
  refine ⟨hread, fun e => kind_of_decodeAuth, fun username password h => ?_⟩
  obtain ⟨hform, hcolon⟩ := hread.1 ⟨_, h⟩
  obtain ⟨before, after, hbytes, hfree⟩ := List.eq_append_cons_of_mem hcolon
  -- the login is what is read of the bytes on both sides of the first colon
  rw [decodeAuth_of_bytes ((Text.Base64.isWellFormed_iff_hasForm _).2 hform) hbytes hfree,
    Except.ok.injEq, Prod.mk.injEq] at h
  obtain ⟨rfl, rfl⟩ := h
  refine ⟨⟨before, after, hbytes, hfree, isReadingOf_decode before, isReadingOf_decode after⟩, ?_⟩
  rw [String.toList_ofList, String.toList_ofList, ← ofNat_colon,
    ← Text.Utf8.decode_append_ascii (by decide), ← hbytes]
  exact Text.Utf8.encode_decode_iff

/-- A login that is UTF-8 keeps its bytes.  A password that ends within a character does not: its
    bytes are replaced, while those of the username before it are kept. -/
theorem whole_login_kept_truncated_replaced :
    (decodeAuth "w7w6w6k=" = .ok ("ü", "é") ∧
      Text.Utf8.encode ("ü".toList ++ ':' :: "é".toList) = denoted "w7w6w6k=") ∧
    ∃ password before after, decodeAuth "w7w64oI=" = .ok ("ü", password) ∧
      denoted "w7w64oI=" = before ++ colon :: after ∧ IsReadingOf "ü" before ∧
      IsReadingOf password after := by
  have hwhole : decodeAuth "w7w6w6k=" = .ok ("ü", "é") := by decide +kernel
  have hutf8 : IsUtf8 (denoted "w7w6w6k=") := ⟨"ü:é".toList, by decide +kernel⟩
  have htruncated : decodeAuth "w7w64oI=" = .ok ("ü", "\uFFFD") := by decide +kernel
  obtain ⟨before, after, hbytes, -, husername, hpassword⟩ :=
    ((login_of_bytes "w7w64oI=").2.2 _ _ htruncated).1
  exact ⟨⟨hwhole, ((login_of_bytes "w7w6w6k=").2.2 _ _ hwhole).2.2 hutf8⟩, _, before, after,
    htruncated, hbytes, husername, hpassword⟩

/-- A password in an older encoding is read without complaint and sent with other bytes. -/
theorem latin1_password_replaced :
    denoted "dTr/" = [0x75, colon, 0xFF] ∧ ¬ IsUtf8 (denoted "dTr/") ∧
      decodeAuth "dTr/" = .ok ("u", "\uFFFD") ∧
      Text.Utf8.encode ("u".toList ++ ':' :: "\uFFFD".toList) ≠ denoted "dTr/" := by
  have hbytes : denoted "dTr/" = [0x75, colon, 0xFF] :=
    denoted_of_respells ⟨"dTr_".toList, 0, by decide +kernel, by decide +kernel⟩
  have hother : Text.Utf8.encode (Text.Utf8.decode [0x75, colon, 0xFF]) ≠ [0x75, colon, 0xFF] := by
    decide +kernel
  refine ⟨hbytes, ?_, by decide +kernel, ?_⟩
  · rw [hbytes, ← Text.Utf8.encode_decode_iff]
    exact hother
  · rw [hbytes]
    decide +kernel

end ImageBuild.Registry
