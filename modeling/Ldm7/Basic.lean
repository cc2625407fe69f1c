import Mathlib.Data.List.Basic

/-! Values shared by the downstream LDM-7 (`down7.c`, `down7_manager.c`): its status codes, FMTP
product-indices, data-product signatures, feedtypes and server addresses, and C's `int`. -/
namespace Ldm7

/-- `Ldm7Status`. `ok` is `LDM7_OK`, the value 0 the code tests with `if (status)`. -/
inductive Ldm7Status
  | ok | timedout | shutdown | inval | refused | rpc | system | mcast | noent | unauth | ipv6
  deriving DecidableEq, Repr

abbrev FmtpProdIndex := UInt32

/-- `signaturet`: the 16-byte signature of a data-product. -/
structure Signature where
  bytes : List UInt8
  length_bytes : bytes.length = 16
  deriving DecidableEq

/-- The all-zero signature that `memset(..., 0, sizeof(signaturet))` writes. -/
def Signature.zero : Signature := ⟨List.replicate 16 0,by simp⟩

def Signature.fill (b : UInt8) : Signature := ⟨List.replicate 16 b,by simp⟩

/-- `int`: a 32-bit two's-complement word, whose arithmetic wraps. -/
abbrev CInt := BitVec 32

abbrev Feedtype := UInt32

/-- A `ServiceAddr` (its module is not among the sources): a host and a port. -/
structure ServiceAddr where
  inetId : String
  port : UInt16
  deriving DecidableEq

end Ldm7
