import OpenApiTools.Digest.Sha256
import OpenApiTools.Text.Case

/-!
# Digests of documents

The digest of a text is its SHA-256 hash in hexadecimal digits behind the name of the algorithm. A
document may be checked against the digest it is expected to have; what a difference means is a
matter of policy.
-/

namespace OpenApiTools

/-- What to do when a document does not have the expected digest. -/
inductive DigestPolicy
  /-- Go on. -/
  | warn
  /-- Give up. -/
  | fail
  /-- Do not check at all. -/
  | ignore
  deriving DecidableEq, Repr

namespace DigestPolicy

/-- The policies. -/
def all : List DigestPolicy := [.warn, .fail, .ignore]

/-- The name of a policy. -/
def name : DigestPolicy → String
  | .warn => "warn"
  | .fail => "fail"
  | .ignore => "ignore"

/-- The policy with a name. -/
def ofName? (name : String) : Option DigestPolicy :=
  all.find? (·.name == name)

end DigestPolicy

/-- A digest that differs from the expected one. -/
structure DigestMismatch where
  expected : String
  actual : String
  deriving DecidableEq, Repr

namespace DigestMismatch

/-- The message that reports the difference. -/
def message (mismatch : DigestMismatch) : String :=
  "Spec hash mismatch. Expected: " ++ mismatch.expected ++ ", Got: " ++ mismatch.actual

end DigestMismatch

namespace Digest

/-- The name of the algorithm and what separates it from the digits. -/
def algorithm : String := "sha256:"

/-- The two hexadecimal digits of a byte. -/
def hexByte (byte : UInt8) : List Char :=
  [Nat.digitChar (byte.toNat / 16), Nat.digitChar (byte.toNat % 16)]

/-- The bytes of a text. -/
def bytes (content : String) : List UInt8 :=
  content.toUTF8.toList

/-- The digest of a text. -/
def ofText (content : String) : String :=
  algorithm ++ String.ofList ((Sha256.hash (bytes content)).toList.flatMap hexByte)

/-- Checks a text against an expected digest, in which the case of letters does not matter. -/
def verify (content expected : String) (policy : DigestPolicy) : Except DigestMismatch Unit :=
  let actual := ofText content
  if policy = .fail ∧ Text.sameIgnoringAsciiCase actual expected = false then
    .error { expected, actual }
  else
    .ok ()

end Digest

end OpenApiTools
