-- What a client shows of itself: certificates, and the key that goes with
-- them.
import ServingOperator.Trust.Pem
import ServingOperator.Trust.PrivateKey

namespace ServingOperator.Trust.Identity

/-- The labels of keys, the most welcome one first. -/
def keyLabels : List String := ["PRIVATE KEY", "RSA PRIVATE KEY", "EC PRIVATE KEY"]

/-- The label of a list of certificates that count no more. -/
def revocations : String := "X509 CRL"

/-- The key that is used, the last one of the most welcome label. -/
def key? (sections : List PemSection) : Option Bytes :=
  keyLabels.findSome? fun label =>
    (sections.filter (·.label = label)).getLast?.map (·.content)

/-- Sections that make an identity: a key that can be used, one certificate at
least, and nothing about certificates that count no more. -/
def isComplete (sections : List PemSection) : Bool :=
  (key? sections).any PrivateKey.isPrivateKey && sections.any (·.label = Pem.certificateLabel) &&
    sections.all (·.label ≠ revocations)

/-- A text that makes an identity. -/
def isIdentity (text : Bytes) : Bool := (Pem.readLines? text).any isComplete

end ServingOperator.Trust.Identity
