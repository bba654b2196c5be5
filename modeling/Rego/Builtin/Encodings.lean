import Rego.Builtin.Declared.Encodings
import Rego.Builtin.Implementation
import Rego.Digest.Hmac
import Rego.Digest.Md5
import Rego.Digest.Sha1
import Rego.Digest.Sha256
import Rego.Digest.Sha512
import Rego.Encoding.Base64
import Rego.Encoding.Hex
import Rego.Text.Utf8
import Rego.Uuid
import Rego.Value.Collection

/-!
# Builtins on encoded bytes

Text encodings, digests and identifiers.  A string stands for its UTF-8 bytes; decoded bytes that
are not UTF-8 give replacement characters.
-/

namespace Rego.Builtin.Encodings

set_option autoImplicit false

/-- The bytes of a string. -/
def bytes (name : String) (argument : Value) : Except BuiltinError (List UInt8) := do
  return Text.bytes (← Argument.string name argument)

/-! ## Text encodings -/

/-- The encoded form of a string. -/
def encode (write : List UInt8 → List Char) (name : String) (argument : Value) : Outcome := do
  return .string (String.ofList (write (← bytes name argument)))

/-- The string that an encoded form stands for. -/
def decode (encoding : String) (read : List UInt8 → Except Encoding.DecodeError (List UInt8))
    (name : String) (argument : Value) : Outcome := do
  match read (← bytes name argument) with
  | .ok decoded => return .string (Text.ofBytes decoded)
  | .error error => failed name (.undecodable encoding error)

/-- Whether a string is an encoded form. -/
def isEncoded (read : List UInt8 → Except Encoding.DecodeError (List UInt8)) (name : String)
    (argument : Value) : Outcome := do
  return .bool (read (← bytes name argument)).isOk

/-- The bytes of the form with padding or, failing that, of the form without. -/
def decodeUrlSafe (symbols : List UInt8) : Except Encoding.DecodeError (List UInt8) :=
  match Encoding.Base64.decode Encoding.Base64.urlSafe symbols with
  | .ok decoded => .ok decoded
  | .error _ => Encoding.Base64.decodeUnpadded Encoding.Base64.urlSafe symbols

/-! ## Digests -/

/-- The hexadecimal digest of a string. -/
def digest (compute : List UInt8 → List UInt8) (name : String) (argument : Value) : Outcome := do
  return .string (String.ofList (Encoding.Hex.encode (compute (← bytes name argument))))

/-- The hexadecimal keyed digest of a string. -/
def keyedDigest (compute : List UInt8 → List UInt8) (blockSize : Nat) (name : String)
    (message key : Value) : Outcome := do
  let message ← bytes name message
  let key ← bytes name key
  return .string (String.ofList (Encoding.Hex.encode (Digest.hmac compute blockSize key message)))

/-- Whether two strings are the same. -/
def same (name : String) (left right : Value) : Outcome := do
  let left ← Argument.string name left
  let right ← Argument.string name right
  return .bool (left == right)

/-! ## Identifiers -/

/-- What an identifier tells about itself. -/
def describe (identifier : List UInt8) : Value :=
  let version := Uuid.version identifier
  let always : List (String × Value) :=
    [("version", .ofNat version), ("variant", .string (Uuid.variant identifier))]
  let time : List (String × Value) :=
    match Uuid.nanoseconds? identifier with
    | some nanoseconds => [("time", .ofNat nanoseconds)]
    | none => []
  let node : List (String × Value) :=
    if version = 1 ∨ version = 2 then
      [("nodeid", .string (Uuid.nodeText identifier)),
        ("macvariables", .string (Uuid.nodeScope identifier)),
        ("clocksequence", .ofNat (Uuid.clockSequence identifier))]
    else []
  let owner : List (String × Value) :=
    if version = 2 then
      [("id", .ofNat (Uuid.number identifier 0 4)), ("domain", .string (Uuid.domain identifier))]
    else []
  .object (Fields.ofNamed (always ++ time ++ node ++ owner))

/-- The description of a written identifier; undefined if the text is none. -/
def parseIdentifier (name : String) (argument : Value) : Outcome := do
  match Uuid.read? (← Argument.string name argument).toList with
  | some identifier => return describe identifier
  | none => return .undefined

/-- The builtins on encoded bytes. -/
def builtins : List Builtin := [
  unary Declared.base64Encode (encode (Encoding.Base64.encode Encoding.Base64.standard)),
  unary Declared.base64Decode (decode "base64" (Encoding.Base64.decode Encoding.Base64.standard)),
  unary Declared.base64IsValid (isEncoded (Encoding.Base64.decode Encoding.Base64.standard)),
  unary Declared.base64urlEncode (encode (Encoding.Base64.encode Encoding.Base64.urlSafe)),
  unary Declared.base64urlEncodeNoPad
    (encode (Encoding.Base64.encodeUnpadded Encoding.Base64.urlSafe)),
  unary Declared.base64urlDecode (decode "base64url" decodeUrlSafe),
  unary Declared.hexEncode (encode Encoding.Hex.encode),
  unary Declared.hexDecode (decode "hex" Encoding.Hex.decode),
  unary Declared.cryptoMd5 (digest Digest.Md5.digest),
  unary Declared.cryptoSha1 (digest Digest.Sha1.digest),
  unary Declared.cryptoSha256 (digest Digest.Sha256.digest),
  binary Declared.cryptoHmacMd5 (keyedDigest Digest.Md5.digest 64),
  binary Declared.cryptoHmacSha1 (keyedDigest Digest.Sha1.digest 64),
  binary Declared.cryptoHmacSha256 (keyedDigest Digest.Sha256.digest 64),
  binary Declared.cryptoHmacSha512 (keyedDigest Digest.Sha512.digest 128),
  binary Declared.cryptoHmacEqual same,
  unary Declared.uuidParse parseIdentifier]

end Rego.Builtin.Encodings
