import Ldm7.Basic

/-! The persistent multicast receiver memory of a downstream LDM-7
(`McastReceiverMemory`, the `mrm_*` calls of `down7.c`). Its implementation is not
among the sources: each operation below has the contract that `down7.c` states or
relies on at its call sites. -/
namespace Ldm7
namespace Memory

/-- The missed-but-not-requested queue, its shut-down flag (set by
`mrm_shutDownMissedFiles`, never cleared by `down7.c`), the requested-but-not-received
queue, and the signature of the last multicast product. -/
structure Mrm where
  missed : List FmtpProdIndex
  missedShutDown : Bool
  requested : List FmtpProdIndex
  lastMcast : Option Signature
  deriving DecidableEq

def Mrm.empty : Mrm := ⟨[],false,[],none⟩

/-- Result of `mrm_peekMissedFileWait`: it blocks while the queue is empty and open,
returns `false` once the queue is shut down (`makeRequest`: "The queue of missed
data-products has been shutdown"), and otherwise peeks at the head. -/
inductive WaitResult
  | blocks
  | shutDown
  | got (i : FmtpProdIndex)
  deriving DecidableEq

/-- Modelled from the spec: `mrm_addMissedFile`, absent from the sources. It fails,
leaving the memory as it is, once the missed queue is shut down (the cancellation
`down7_missedProduct` ignores). -/
def addMissedFile (m : Mrm) (i : FmtpProdIndex) : Bool × Mrm :=
  if m.missedShutDown then (false,m) else (true,{ m with missed := m.missed ++ [i] })

/-- Modelled from the spec: `mrm_peekMissedFileWait`, absent from the sources. -/
def peekMissedFileWait (m : Mrm) : WaitResult :=
  if m.missedShutDown then .shutDown
  else match m.missed with
    | [] => .blocks
    | i :: _ => .got i

/-- Modelled from the spec: `mrm_addRequestedFile`, absent from the sources; `ok` is
whether the queue could grow. -/
def addRequestedFile (m : Mrm) (i : FmtpProdIndex) (ok : Bool) : Bool × Mrm :=
  if ok then (true,{ m with requested := m.requested ++ [i] }) else (false,m)

/-- Modelled from the spec: `mrm_removeMissedFileNoWait`, absent from the sources. It
removes the head, which it also writes to its index argument. -/
def removeMissedFileNoWait (m : Mrm) : Option FmtpProdIndex × Mrm :=
  (m.missed.head?,{ m with missed := m.missed.tail })

/-- Modelled from the spec: `mrm_peekRequestedFileNoWait`, absent from the sources. -/
def peekRequestedFileNoWait (m : Mrm) : Option FmtpProdIndex := m.requested.head?

/-- Modelled from the spec: `mrm_removeRequestedFileNoWait`, absent from the sources. -/
def removeRequestedFileNoWait (m : Mrm) : Option FmtpProdIndex × Mrm :=
  (m.requested.head?,{ m with requested := m.requested.tail })

/-- Modelled from the spec: `mrm_shutDownMissedFiles`, absent from the sources. -/
def shutDownMissedFiles (m : Mrm) : Mrm := { m with missedShutDown := true }

/-- Modelled from the spec: `mrm_setLastMcastProd`, absent from the sources. -/
def setLastMcastProd (m : Mrm) (sig : Signature) : Mrm := { m with lastMcast := some sig }

/-- Modelled from the spec: `mrm_getLastMcastProd`, absent from the sources: whether a
last multicast product is recorded, and its signature. -/
def getLastMcastProd (m : Mrm) : Option Signature := m.lastMcast

@[simp] theorem removeMissedFileNoWait_missed (m : Mrm) :
    (removeMissedFileNoWait m).2.missed = m.missed.tail := rfl
@[simp] theorem removeMissedFileNoWait_requested (m : Mrm) :
    (removeMissedFileNoWait m).2.requested = m.requested := rfl
@[simp] theorem removeMissedFileNoWait_missedShutDown (m : Mrm) :
    (removeMissedFileNoWait m).2.missedShutDown = m.missedShutDown := rfl
@[simp] theorem removeRequestedFileNoWait_missed (m : Mrm) :
    (removeRequestedFileNoWait m).2.missed = m.missed := rfl
@[simp] theorem removeRequestedFileNoWait_requested (m : Mrm) :
    (removeRequestedFileNoWait m).2.requested = m.requested.tail := rfl
@[simp] theorem removeRequestedFileNoWait_missedShutDown (m : Mrm) :
    (removeRequestedFileNoWait m).2.missedShutDown = m.missedShutDown := rfl
@[simp] theorem shutDownMissedFiles_missed (m : Mrm) :
    (shutDownMissedFiles m).missed = m.missed := rfl
@[simp] theorem shutDownMissedFiles_requested (m : Mrm) :
    (shutDownMissedFiles m).requested = m.requested := rfl
@[simp] theorem shutDownMissedFiles_missedShutDown (m : Mrm) :
    (shutDownMissedFiles m).missedShutDown = true := rfl
@[simp] theorem setLastMcastProd_missedShutDown (m : Mrm) (sig : Signature) :
    (setLastMcastProd m sig).missedShutDown = m.missedShutDown := rfl
@[simp] theorem setLastMcastProd_lastMcast (m : Mrm) (sig : Signature) :
    (setLastMcastProd m sig).lastMcast = some sig := rfl

theorem addMissedFile_missed (m : Mrm) (i : FmtpProdIndex) :
    (addMissedFile m i).2.missed = if m.missedShutDown then m.missed else m.missed ++ [i] := by
  unfold addMissedFile; split <;> rfl
@[simp] theorem addMissedFile_requested (m : Mrm) (i : FmtpProdIndex) :
    (addMissedFile m i).2.requested = m.requested := by
  unfold addMissedFile; split <;> rfl
@[simp] theorem addMissedFile_missedShutDown (m : Mrm) (i : FmtpProdIndex) :
    (addMissedFile m i).2.missedShutDown = m.missedShutDown := by
  unfold addMissedFile; split <;> rfl

theorem addMissedFile_head? (m : Mrm) (i : FmtpProdIndex) (j : FmtpProdIndex)
    (h : m.missed.head? = some j) : (addMissedFile m i).2.missed.head? = some j := by
  rw [addMissedFile_missed]; split
  · exact h
  · cases hm : m.missed <;> simp_all

theorem peekMissedFileWait_got {m : Mrm} {i : FmtpProdIndex}
    (h : peekMissedFileWait m = .got i) : m.missed.head? = some i := by
  unfold peekMissedFileWait at h; split_ifs at h; split at h <;> simp_all

theorem addRequestedFile_requested (m : Mrm) (i : FmtpProdIndex) (ok : Bool) :
    (addRequestedFile m i ok).2.requested = if ok then m.requested ++ [i] else m.requested := by
  cases ok <;> rfl
@[simp] theorem addRequestedFile_missed (m : Mrm) (i : FmtpProdIndex) (ok : Bool) :
    (addRequestedFile m i ok).2.missed = m.missed := by cases ok <;> rfl
@[simp] theorem addRequestedFile_missedShutDown (m : Mrm) (i : FmtpProdIndex) (ok : Bool) :
    (addRequestedFile m i ok).2.missedShutDown = m.missedShutDown := by cases ok <;> rfl
@[simp] theorem addRequestedFile_fst (m : Mrm) (i : FmtpProdIndex) (ok : Bool) :
    (addRequestedFile m i ok).1 = ok := by cases ok <;> rfl

end Memory
end Ldm7
