import Rego.Proofs.Builtin.Calls
import Rego.Proofs.Encoding.Base64
import Rego.Proofs.Encoding.Hex
import Rego.Proofs.Text.Decoding

/-!
# Calls that encode and decode

A call that encodes gives the symbols of the bytes of its string (`gives_encode`). A call that
decodes gives the text of the bytes that it reads, or fails where it reads none (`gives_decode`,
`fails_decode`). Nothing is replaced in the bytes of a text, and so what has been encoded decodes to
itself (`encodings_lossless`).

The two forms for addresses are tried one after the other. No text is read in two ways, so whichever
form a text has is what it decodes to (`decodeUrlSafe_eq_ok_iff`).
-/

namespace Rego.Builtin.Encodings

set_option autoImplicit false

open Encoding (DecodeError)
open Encoding.Base64 (standard urlSafe alphabet_standard alphabet_urlSafe padding_not_mem)
open Registry (Gives Fails)

variable {name : String} (metadata : Metadata) {text : String}

/-! ## Calls -/

theorem gives_encode (write : List UInt8 → List Char)
    (found : Registry.standard.find? name = some (unary metadata (encode write)))
    (fresh : Registry.isKept name metadata = false)
    (checked : Registry.check name metadata.declaration [.string text] = .ok ()) :
    Gives name [.string text] (.string (String.ofList (write (Text.bytes text)))) :=
  Registry.gives_of_run found fresh checked rfl

section Reading

variable {encoding : String} {read : List UInt8 → Except DecodeError (List UInt8)}

theorem decode_string (text : String) : decode encoding read name (.string text) =
    match read (Text.bytes text) with
    | .ok decoded => .ok (.string (Text.ofBytes decoded))
    | .error error => failed name (.undecodable encoding error) := rfl

variable (found : Registry.standard.find? name = some (unary metadata (decode encoding read)))
  (fresh : Registry.isKept name metadata = false)
  (checked : Registry.check name metadata.declaration [.string text] = .ok ())

include found fresh checked

theorem gives_decode {decoded : List UInt8} (known : read (Text.bytes text) = .ok decoded) :
    Gives name [.string text] (.string (Text.ofBytes decoded)) :=
  Registry.gives_of_run found fresh checked ((decode_string text).trans (by rw [known]))

theorem fails_decode (named : metadata.name = name) {error : DecodeError}
    (refused : read (Text.bytes text) = .error error) :
    Fails name [.string text] (.undecodable encoding error) :=
  Registry.fails_of_run found fresh checked
    ((decode_string text).trans (by rw [refused, named]))

/-- Characters whose bytes are read as the bytes of a text decode to the text. -/
theorem gives_decode_of_read {characters : List Char} {source : String}
    (spelled : text = String.ofList characters)
    (known : read (Text.utf8 characters) = .ok (Text.bytes source)) :
    Gives name [.string text] (.string source) := by
  rw [← Text.bytes_ofList, ← spelled] at known
  have given := gives_decode metadata found fresh checked known
  rwa [Text.ofBytes_bytes] at given

end Reading

theorem gives_base64Decode {decoded : List UInt8}
    (known : Encoding.Base64.decode standard (Text.bytes text) = .ok decoded) :
    Gives "base64.decode" [.string text] (.string (Text.ofBytes decoded)) :=
  gives_decode Declared.base64Decode rfl (by decide) (Registry.check_ok rfl rfl) known

theorem gives_base64IsValid (text : String) : Gives "base64.is_valid" [.string text]
    (.bool (Encoding.Base64.decode standard (Text.bytes text)).isOk) := by
  have found : Registry.standard.find? "base64.is_valid" = some (unary Declared.base64IsValid
    (isEncoded (Encoding.Base64.decode standard))) := rfl
  exact Registry.gives_of_run found (by decide) (Registry.check_ok rfl rfl) rfl

/-- **A string is valid exactly if it is decoded.** -/
theorem isValid_cases (text : String) :
    (Gives "base64.is_valid" [.string text] (.bool true) ∧
      ∃ decoded : String, Gives "base64.decode" [.string text] (.string decoded)) ∨
    (Gives "base64.is_valid" [.string text] (.bool false) ∧
      ∃ cause, Fails "base64.decode" [.string text] cause) := by
  have valid := gives_base64IsValid text
  cases known : Encoding.Base64.decode standard (Text.bytes text) with
  | ok decoded =>
      rw [known] at valid
      exact .inl ⟨valid, _, gives_base64Decode known⟩
  | error error =>
      rw [known] at valid
      exact .inr ⟨valid, _, fails_decode Declared.base64Decode rfl (by decide)
        (Registry.check_ok rfl rfl) rfl known⟩

/-! ## The forms for addresses -/

/-- **A text is decoded as whichever of the two forms it has.** -/
theorem decodeUrlSafe_eq_ok_iff (symbols decoded : List UInt8) :
    decodeUrlSafe symbols = .ok decoded ↔
      Encoding.Base64.decode urlSafe symbols = .ok decoded ∨
        Encoding.Base64.decodeUnpadded urlSafe symbols = .ok decoded := by
  unfold decodeUrlSafe
  cases padded : Encoding.Base64.decode urlSafe symbols with
  | error _ => exact ⟨.inr, fun either => either.resolve_left nofun⟩
  | ok bytes =>
      refine ⟨.inl, fun either => either.elim id fun unpadded => ?_⟩
      rw [Encoding.Base64.decode_eq_decodeUnpadded (padding_not_mem (by simp)) padded unpadded]

theorem gives_base64urlDecode {decoded : List UInt8}
    (known : Encoding.Base64.decode urlSafe (Text.bytes text) = .ok decoded ∨
      Encoding.Base64.decodeUnpadded urlSafe (Text.bytes text) = .ok decoded) :
    Gives "base64url.decode" [.string text] (.string (Text.ofBytes decoded)) :=
  gives_decode Declared.base64urlDecode rfl (by decide) (Registry.check_ok rfl rfl)
    ((decodeUrlSafe_eq_ok_iff _ _).mpr known)

/-! ## Nothing is lost -/

/-- **Encoded texts decode to themselves.** Whatever a string holds, its standard form, both of its
forms for addresses and its hexadecimal form, this one in any letter case, decode to the string; and
the form without padding is the padded one without the `=` at its end.

A string is a valid standard form if and only if it decodes, and a call that asks always has an
answer. A string that both decoders for addresses read is the same bytes for both, and it decodes to
the text of what either of them reads. -/
theorem encodings_lossless :
    (∀ text : String, ∃ written padded unpadded hexadecimal : String,
      (Gives "base64.encode" [.string text] (.string written) ∧
        Gives "base64.decode" [.string written] (.string text)) ∧
      (Gives "base64url.encode" [.string text] (.string padded) ∧
        Gives "base64url.decode" [.string padded] (.string text)) ∧
      (Gives "base64url.encode_no_pad" [.string text] (.string unpadded) ∧
        Gives "base64url.decode" [.string unpadded] (.string text)) ∧
      ('=' ∉ unpadded.toList ∧
        ∃ count, padded.toList = unpadded.toList ++ List.replicate count '=') ∧
      Gives "hex.encode" [.string text] (.string hexadecimal) ∧
        ∀ recased : String, Text.Recased recased.toList hexadecimal.toList →
          Gives "hex.decode" [.string recased] (.string text)) ∧
    (∀ text : String,
      (Gives "base64.is_valid" [.string text] (.bool true) ∨
        Gives "base64.is_valid" [.string text] (.bool false)) ∧
      (Gives "base64.is_valid" [.string text] (.bool true) ↔
        ∃ value, Gives "base64.decode" [.string text] value)) ∧
    (∀ symbols padded unpadded : List UInt8,
      Encoding.Base64.decode urlSafe symbols = .ok padded →
        Encoding.Base64.decodeUnpadded urlSafe symbols = .ok unpadded → padded = unpadded) ∧
    ∀ (text : String) (decoded : List UInt8),
      Encoding.Base64.decode urlSafe (Text.bytes text) = .ok decoded ∨
        Encoding.Base64.decodeUnpadded urlSafe (Text.bytes text) = .ok decoded →
      Gives "base64url.decode" [.string text] (.string (Text.ofBytes decoded)) := by
  have solid : '=' ∉ standard := padding_not_mem (by simp)
  have solid' : '=' ∉ urlSafe := padding_not_mem (by simp)
  refine ⟨fun text => ?_, fun text => ?_, fun symbols padded unpadded =>
    Encoding.Base64.decode_eq_decodeUnpadded solid', fun text decoded => gives_base64urlDecode⟩
  · refine ⟨_, _, _, _, ⟨gives_encode Declared.base64Encode _ rfl (by decide)
      (Registry.check_ok rfl rfl), ?_⟩, ⟨gives_encode Declared.base64urlEncode _ rfl (by decide)
      (Registry.check_ok rfl rfl), ?_⟩, ⟨gives_encode Declared.base64urlEncodeNoPad _ rfl
      (by decide) (Registry.check_ok rfl rfl), ?_⟩, ⟨?_, ?_⟩, gives_encode Declared.hexEncode _ rfl
      (by decide) (Registry.check_ok rfl rfl), fun recased same => ?_⟩
    · exact gives_decode_of_read Declared.base64Decode rfl (by decide) (Registry.check_ok rfl rfl)
        rfl (Encoding.Base64.decode_encode_bytes alphabet_standard _ solid)
    · exact gives_decode_of_read Declared.base64urlDecode rfl (by decide)
        (Registry.check_ok rfl rfl) rfl ((decodeUrlSafe_eq_ok_iff _ _).mpr
          (.inl (Encoding.Base64.decode_encode_bytes alphabet_urlSafe _ solid')))
    · exact gives_decode_of_read Declared.base64urlDecode rfl (by decide)
        (Registry.check_ok rfl rfl) rfl ((decodeUrlSafe_eq_ok_iff _ _).mpr
          (.inr (Encoding.Base64.decodeUnpadded_encodeUnpadded alphabet_urlSafe _)))
    · rw [String.toList_ofList]
      exact Encoding.Base64.padding_not_mem_encodeUnpadded alphabet_urlSafe _ solid'
    · rw [String.toList_ofList, String.toList_ofList]
      exact ⟨_, rfl⟩
    · rw [String.toList_ofList] at same
      exact gives_decode_of_read Declared.hexDecode rfl (by decide) (Registry.check_ok rfl rfl)
        String.ofList_toList.symm (Encoding.Hex.decode_recased same)
  · rcases isValid_cases text with ⟨valid, decoded, given⟩ | ⟨invalid, cause, refused⟩
    · exact ⟨.inl valid, iff_of_true valid ⟨_, given⟩⟩
    · exact ⟨.inr invalid, iff_of_false (fun valid => nomatch valid.unique invalid)
        fun ⟨value, given⟩ => refused.not_gives value given⟩

/-- Four bytes, which leave one over and fill the last block up with padding, and a text of one
block that both decoders for addresses read. -/
theorem encodings_lossless_samples :
    Gives "base64.decode" [.string "w6k/fg=="] (.string "é?~") ∧
    Gives "base64url.decode" [.string "w6k_fg"] (.string "é?~") ∧
    (Text.Recased "C3A93f7E".toList "c3a93f7e".toList ∧
      Gives "hex.decode" [.string "C3A93f7E"] (.string "é?~")) ∧
    Encoding.Base64.decode urlSafe (Text.bytes "w6k_") = .ok [0xC3, 0xA9, 0x3F] ∧
      Encoding.Base64.decodeUnpadded urlSafe (Text.bytes "w6k_") = .ok [0xC3, 0xA9, 0x3F] ∧
      Gives "base64url.decode" [.string "w6k_"] (.string "é?") := by
  obtain ⟨texts, _, _, either⟩ := encodings_lossless
  obtain ⟨written, padded, unpadded, hexadecimal, ⟨encoded, decoded⟩, _, ⟨encoded', decoded'⟩, _,
    encodedHex, decodedHex⟩ := texts "é?~"
  have bytes : Text.bytes "é?~" = [0xC3, 0xA9, 0x3F, 0x7E] := by
    rw [Text.bytes_eq_utf8]
    decide +kernel
  have block : Text.bytes "w6k_" = [0x77, 0x36, 0x6B, 0x5F] := by
    rw [Text.bytes_eq_utf8]
    decide +kernel
  have one : written = "w6k/fg==" := by
    have given := encoded.unique (gives_encode Declared.base64Encode
      (Encoding.Base64.encode standard) rfl (by decide) (Registry.check_ok rfl rfl))
    rw [bytes] at given
    exact (Value.string.inj given).trans (by decide +kernel)
  have two : unpadded = "w6k_fg" := by
    have given := encoded'.unique (gives_encode Declared.base64urlEncodeNoPad
      (Encoding.Base64.encodeUnpadded urlSafe) rfl (by decide) (Registry.check_ok rfl rfl))
    rw [bytes] at given
    exact (Value.string.inj given).trans (by decide +kernel)
  have three : hexadecimal = "c3a93f7e" := by
    have given := encodedHex.unique (gives_encode Declared.hexEncode Encoding.Hex.encode rfl
      (by decide) (Registry.check_ok rfl rfl))
    rw [bytes] at given
    exact (Value.string.inj given).trans (by decide +kernel)
  subst one two three
  have read : Encoding.Base64.decode urlSafe (Text.bytes "w6k_") = .ok [0xC3, 0xA9, 0x3F] := by
    rw [block]
    decide +kernel
  have read' : Encoding.Base64.decodeUnpadded urlSafe (Text.bytes "w6k_") =
      .ok [0xC3, 0xA9, 0x3F] := by
    rw [block]
    decide +kernel
  exact ⟨decoded, decoded', ⟨by decide, decodedHex _ (by decide)⟩, read, read',
    either "w6k_" _ (.inl read)⟩

end Rego.Builtin.Encodings
