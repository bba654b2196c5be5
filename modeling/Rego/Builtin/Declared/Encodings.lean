import Rego.Builtin.Metadata

/-!
# Declarations of encodings

Signatures and descriptions of the builtins that encode, decode and digest texts and read
identifiers.
-/

namespace Rego.Declared

set_option autoImplicit false

/-- The declaration of `base64.decode`. -/
def base64Decode : Metadata where
  name := "base64.decode"
  description := some "Deserializes the base64 encoded input string."
  categories := some ["encoding"]
  declaration :=
    ⟨[.named "x" (some "string to decode") .string],
      some (.named "y" (some "base64 deserialization of `x`") .string),
      none⟩

/-- The declaration of `base64.encode`. -/
def base64Encode : Metadata where
  name := "base64.encode"
  description := some "Serializes the input string into base64 encoding."
  categories := some ["encoding"]
  declaration :=
    ⟨[.named "x" (some "string to encode") .string],
      some (.named "y" (some "base64 serialization of `x`") .string),
      none⟩

/-- The declaration of `base64.is_valid`. -/
def base64IsValid : Metadata where
  name := "base64.is_valid"
  description := some "Verifies the input string is base64 encoded."
  categories := some ["encoding"]
  declaration :=
    ⟨[.named "x" (some "string to check") .string],
      some (.named "result"
        (some "`true` if `x` is valid base64 encoded value, `false` otherwise")
        .boolean),
      none⟩

/-- The declaration of `base64url.decode`. -/
def base64urlDecode : Metadata where
  name := "base64url.decode"
  description := some "Deserializes the base64url encoded input string."
  categories := some ["encoding"]
  declaration :=
    ⟨[.named "x" (some "string to decode") .string],
      some (.named "y" (some "base64url deserialization of `x`") .string),
      none⟩

/-- The declaration of `base64url.encode`. -/
def base64urlEncode : Metadata where
  name := "base64url.encode"
  description := some "Serializes the input string into base64url encoding."
  categories := some ["encoding"]
  declaration :=
    ⟨[.named "x" (some "string to encode") .string],
      some (.named "y" (some "base64url serialization of `x`") .string),
      none⟩

/-- The declaration of `base64url.encode_no_pad`. -/
def base64urlEncodeNoPad : Metadata where
  name := "base64url.encode_no_pad"
  description := some "Serializes the input string into base64url encoding without padding."
  categories := some ["encoding"]
  declaration :=
    ⟨[.named "x" (some "string to encode") .string],
      some (.named "y" (some "base64url serialization of `x`") .string),
      none⟩

/-- The declaration of `hex.decode`. -/
def hexDecode : Metadata where
  name := "hex.decode"
  description := some "Deserializes the hex-encoded input string."
  categories := some ["encoding"]
  declaration :=
    ⟨[.named "x" (some "a hex-encoded string") .string],
      some (.named "y" (some "deserialized from `x`") .string),
      none⟩

/-- The declaration of `hex.encode`. -/
def hexEncode : Metadata where
  name := "hex.encode"
  description := some "Serializes the input string using hex-encoding."
  categories := some ["encoding"]
  declaration :=
    ⟨[.named "x" (some "string to encode") .string],
      some (.named "y" (some "serialization of `x` using hex-encoding") .string),
      none⟩

/-- The declaration of `crypto.hmac.equal`. -/
def cryptoHmacEqual : Metadata where
  name := "crypto.hmac.equal"
  description := some ("Returns a boolean representing the result of comparing two MACs for " ++
      "equality without leaking timing information.")
  declaration :=
    ⟨[.named "mac1" (some "mac1 to compare") .string,
      .named "mac2" (some "mac2 to compare") .string],
      some (.named "result" (some "`true` if the MACs are equals, `false` otherwise") .boolean),
      none⟩

/-- The declaration of `crypto.hmac.md5`. -/
def cryptoHmacMd5 : Metadata where
  name := "crypto.hmac.md5"
  description :=
    some "Returns a string representing the MD5 HMAC of the input message using the input key."
  declaration :=
    ⟨[.named "x" (some "input string") .string,
      .named "key" (some "key to use") .string],
      some (.named "y" (some "MD5-HMAC of `x`") .string),
      none⟩

/-- The declaration of `crypto.hmac.sha1`. -/
def cryptoHmacSha1 : Metadata where
  name := "crypto.hmac.sha1"
  description :=
    some "Returns a string representing the SHA1 HMAC of the input message using the input key."
  declaration :=
    ⟨[.named "x" (some "input string") .string,
      .named "key" (some "key to use") .string],
      some (.named "y" (some "SHA1-HMAC of `x`") .string),
      none⟩

/-- The declaration of `crypto.hmac.sha256`. -/
def cryptoHmacSha256 : Metadata where
  name := "crypto.hmac.sha256"
  description :=
    some "Returns a string representing the SHA256 HMAC of the input message using the input key."
  declaration :=
    ⟨[.named "x" (some "input string") .string,
      .named "key" (some "key to use") .string],
      some (.named "y" (some "SHA256-HMAC of `x`") .string),
      none⟩

/-- The declaration of `crypto.hmac.sha512`. -/
def cryptoHmacSha512 : Metadata where
  name := "crypto.hmac.sha512"
  description :=
    some "Returns a string representing the SHA512 HMAC of the input message using the input key."
  declaration :=
    ⟨[.named "x" (some "input string") .string,
      .named "key" (some "key to use") .string],
      some (.named "y" (some "SHA512-HMAC of `x`") .string),
      none⟩

/-- The declaration of `crypto.md5`. -/
def cryptoMd5 : Metadata where
  name := "crypto.md5"
  description := some "Returns a string representing the input string hashed with the MD5 function"
  declaration :=
    ⟨[.named "x" (some "input string") .string],
      some (.named "y" (some "MD5-hash of `x`") .string),
      none⟩

/-- The declaration of `crypto.sha1`. -/
def cryptoSha1 : Metadata where
  name := "crypto.sha1"
  description := some "Returns a string representing the input string hashed with the SHA1 function"
  declaration :=
    ⟨[.named "x" (some "input string") .string],
      some (.named "y" (some "SHA1-hash of `x`") .string),
      none⟩

/-- The declaration of `crypto.sha256`. -/
def cryptoSha256 : Metadata where
  name := "crypto.sha256"
  description :=
    some "Returns a string representing the input string hashed with the SHA256 function"
  declaration :=
    ⟨[.named "x" (some "input string") .string],
      some (.named "y" (some "SHA256-hash of `x`") .string),
      none⟩

/-- The declaration of `uuid.parse`. -/
def uuidParse : Metadata where
  name := "uuid.parse"
  description := some ("Parses the string value as an UUID and returns an object with the " ++
      "well-defined fields of the UUID if valid.")
  declaration :=
    ⟨[.named "uuid" (some "UUID string to parse") .string],
      some (.named "result"
        (some "Properties of UUID if valid (version, variant, etc). Undefined otherwise.")
        (.object [] (some (.string, .any [])))),
      none⟩
  relation := some false

end Rego.Declared
