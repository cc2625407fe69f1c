import Ldm7.Down7.Session

/-! Creating a downstream LDM-7 (`down7_new`, `down7.c`): it acquires its resources one by
one and, when a step fails, jumps into a chain of labels that falls through to
`return_NULL`, releasing one resource at each label. The outcome of every call it makes is
an input, and `PQ_THREADSAFE` a parameter. -/
namespace Ldm7
namespace Setup

open Memory

structure Pqueue where
  pathname : String
  deriving DecidableEq

/-- What `down7_new` acquires, and the product-queue `down7->pq` points to. -/
inductive Resource
  | down7 | servAddr | napCond | mutexAttr | stateMutex | executor | iface | vcEnd | mrm | pq
  deriving DecidableEq

/-- The labels of the cleanup chain, in the order the code falls through them. -/
inductive Label
  | closeMcastReceiverMemory | freeVcEnd | freeMcastIface | freeExecutor | closePq
  | freeStateMutex | freeNapCond | freeServAddr | freeDown7
  deriving DecidableEq

def Label.releases : Label → Resource
  | .closeMcastReceiverMemory => .mrm
  | .freeVcEnd => .vcEnd
  | .freeMcastIface => .iface
  | .freeExecutor => .executor
  | .closePq => .pq
  | .freeStateMutex => .stateMutex
  | .freeNapCond => .napCond
  | .freeServAddr => .servAddr
  | .freeDown7 => .down7

def chain : List Label :=
  [.closeMcastReceiverMemory,.freeVcEnd,.freeMcastIface,.freeExecutor,.closePq,.freeStateMutex,
   .freeNapCond,.freeServAddr,.freeDown7]

/-- What a `goto` to a label releases: every statement from it to `return_NULL`. -/
def cleanup (l : Label) : List Resource := (chain.dropWhile (· ≠ l)).map Label.releases

/-- The outcome of each call `down7_new` makes: `pqFlags` is `pq_getFlags(down7Pq)` and
`mrmOpen` the memory `mrm_open` returns, `none` for `NULL`. -/
structure Outcomes where
  mallocOk : Bool
  pqFlags : CInt
  saCloneOk : Bool
  condInitOk : Bool
  mutexattrInitOk : Bool
  mutexInitOk : Bool
  exeNewOk : Bool
  strdupOk : Bool
  vcEndPointCopyOk : Bool
  mrmOpen : Option Mrm
  onceOk : Bool

/-- The fields of the new `Down7` that `down7_new` writes, and the arguments with which it
called `mrm_open`. -/
structure Fields where
  servAddr : Option ServiceAddr
  iface : Option String
  mrmOpenedFor : Option (Option ServiceAddr × Option Feedtype)
  pq : Option Pqueue
  feedtype : Option Feedtype

def Fields.unset : Fields := ⟨none,none,none,none,none⟩

/-- `down7->mrm = mrm_open(down7->servAddr, down7->feedtype)`: the call reads the two
fields as they are. -/
def Fields.openMrm (f : Fields) : Fields := { f with mrmOpenedFor := some (f.servAddr,f.feedtype) }

/-- What `down7_new` did: the `Down7` it returns (`none` is `NULL`), with its fields and
the part the sessions use; the fields when it returned; what it acquired and what it
released, in order. -/
structure Result where
  down7 : Option Session.Down7
  fields : Fields
  acquired : List Resource
  released : List Resource

/-- What `down7_new` holds after the state-mutex block, which initializes the mutex only
when `pthread_mutexattr_init` succeeded. -/
def heldAfterMutex (mutexattrInitOk : Bool) : List Resource :=
  if mutexattrInitOk then [.down7,.servAddr,.napCond,.mutexAttr,.stateMutex]
  else [.down7,.servAddr,.napCond]

/-- What the state-mutex block releases on its way: the attributes it initialized. -/
def releasedInMutex (mutexattrInitOk : Bool) : List Resource :=
  if mutexattrInitOk then [.mutexAttr] else []

def down7New (pqThreadsafe : CInt) (servAddr : ServiceAddr) (feedtype : Feedtype)
    (mcastIface : String) (down7Pq : Pqueue) (o : Outcomes) : Result :=
  if !o.mallocOk then ⟨none,.unset,[],[]⟩
  else if o.pqFlags ||| pqThreadsafe = 0 then ⟨none,.unset,[.down7],cleanup .freeDown7⟩
  else if !o.saCloneOk then ⟨none,.unset,[.down7],cleanup .freeDown7⟩
  else if !o.condInitOk then
    ⟨none,{ Fields.unset with servAddr := some servAddr },[.down7,.servAddr],cleanup .freeServAddr⟩
  -- A failing `pthread_mutexattr_init` is only logged.
  else if o.mutexattrInitOk && !o.mutexInitOk then
    ⟨none,{ Fields.unset with servAddr := some servAddr },[.down7,.servAddr,.napCond,.mutexAttr],
      .mutexAttr :: cleanup .freeNapCond⟩
  else if !o.exeNewOk then
    ⟨none,{ Fields.unset with servAddr := some servAddr },heldAfterMutex o.mutexattrInitOk,
      releasedInMutex o.mutexattrInitOk ++ cleanup .freeStateMutex⟩
  else if !o.strdupOk then
    ⟨none,{ Fields.unset with servAddr := some servAddr },
      heldAfterMutex o.mutexattrInitOk ++ [.executor],
      releasedInMutex o.mutexattrInitOk ++ cleanup .freeExecutor⟩
  else if !o.vcEndPointCopyOk then
    ⟨none,{ Fields.unset with servAddr := some servAddr, iface := some mcastIface },
      heldAfterMutex o.mutexattrInitOk ++ [.executor,.iface],
      releasedInMutex o.mutexattrInitOk ++ cleanup .freeMcastIface⟩
  else match o.mrmOpen with
  | none =>
    ⟨none,Fields.openMrm { Fields.unset with servAddr := some servAddr, iface := some mcastIface },
      heldAfterMutex o.mutexattrInitOk ++ [.executor,.iface,.vcEnd],
      releasedInMutex o.mutexattrInitOk ++ cleanup .freeVcEnd⟩
  | some mrm =>
    if !o.onceOk then
      ⟨none,Fields.openMrm { Fields.unset with servAddr := some servAddr, iface := some mcastIface },
        heldAfterMutex o.mutexattrInitOk ++ [.executor,.iface,.vcEnd,.mrm],
        releasedInMutex o.mutexattrInitOk ++ cleanup .closeMcastReceiverMemory⟩
    else
      ⟨some (Session.down7New mrm),
        { Fields.openMrm { Fields.unset with servAddr := some servAddr, iface := some mcastIface } with
          pq := some down7Pq, feedtype := some feedtype },
        heldAfterMutex o.mutexattrInitOk ++ [.executor,.iface,.vcEnd,.mrm],
        releasedInMutex o.mutexattrInitOk⟩

/-- The lists of a `NULL` return: each resource acquired is released exactly once, and
what is released beyond them is `down7->pq`, or the state mutex when
`pthread_mutexattr_init` failed (`mutexattrInitOk` false). -/
def CleanupOk (mutexattrInitOk : Bool) (acquired released : List Resource) : Prop :=
  (∀ r ∈ acquired, released.count r = 1) ∧
    ∀ r ∈ released, r ∈ acquired ∨ r = .pq ∨ r = .stateMutex ∧ mutexattrInitOk = false

instance (m : Bool) (acquired released : List Resource) :
    Decidable (CleanupOk m acquired released) :=
  inferInstanceAs (Decidable (_ ∧ _))

section
variable (pqThreadsafe : CInt) (servAddr : ServiceAddr) (feedtype : Feedtype) (mcastIface : String)
  (down7Pq : Pqueue) (o : Outcomes)

/-- The two ways `down7_new` may return: `NULL` after a cleanup that releases what it
acquired, with `down7->pq` unwritten; or, every step but `pthread_mutexattr_init` having
succeeded, the `Down7` on the memory `mrm_open` returned. -/
def Down7NewSpec (r : Result) : Prop :=
  (r.down7 = none ∧ CleanupOk o.mutexattrInitOk r.acquired r.released ∧ r.fields.pq = none) ∨
    o.mallocOk = true ∧ o.pqFlags ||| pqThreadsafe ≠ 0 ∧ o.saCloneOk = true ∧
      o.condInitOk = true ∧ (o.mutexattrInitOk = true → o.mutexInitOk = true) ∧
      o.exeNewOk = true ∧ o.strdupOk = true ∧ o.vcEndPointCopyOk = true ∧ o.onceOk = true ∧
      ∃ mrm, o.mrmOpen = some mrm ∧ r =
        ⟨some (Session.down7New mrm),
          { Fields.openMrm { Fields.unset with servAddr := some servAddr, iface := some mcastIface } with
            pq := some down7Pq, feedtype := some feedtype },
          heldAfterMutex o.mutexattrInitOk ++ [.executor,.iface,.vcEnd,.mrm],
          releasedInMutex o.mutexattrInitOk⟩

theorem down7New_cases :
    Down7NewSpec pqThreadsafe servAddr feedtype mcastIface down7Pq o
      (down7New pqThreadsafe servAddr feedtype mcastIface down7Pq o) := by
  let P := Down7NewSpec pqThreadsafe servAddr feedtype mcastIface down7Pq o
  show P _
  unfold down7New
  repeat' refine iteInduction (motive := P) (fun _ => ?_) fun _ => ?_
  rotate_right
  rcases hmo : o.mrmOpen with _ | mrm
  swap
  refine iteInduction (motive := P) (fun _ => ?_) fun h9 => .inr ?_
  swap
  · rename_i h1 h2 h3 h4 h5 h6 h7 h8
    simp only [Bool.not_eq_true',Bool.not_eq_false] at h1 h3 h4 h6 h7 h8 h9
    exact ⟨h1,h2,h3,h4,fun hm => by simpa [hm] using h5,h6,h7,h8,h9,mrm,hmo,rfl⟩
  all_goals exact .inl ⟨rfl,by dsimp only; cases o.mutexattrInitOk <;> decide,rfl⟩

theorem or_ne_zero {a b : CInt} (hb : b ≠ 0) : a ||| b ≠ 0 := fun h => hb <|
  BitVec.eq_of_getLsbD_eq fun i => by
    have := congrArg (BitVec.getLsbD · i.val) h
    simp at this
    simp [this.2]

end

/-- Three runs of `down7_new`. `strdup` fails: the cleanup falls through `close_pq` and
closes `down7->pq`, which nothing has written. `pthread_mutexattr_init` fails: a `Down7`
is returned whose state mutex was never initialized. Every step succeeds: the multicast
receiver memory was opened with `down7->feedtype` not yet written. -/
theorem down7New_failure_paths (t : CInt) (s : ServiceAddr) (f : Feedtype) (i : String)
    (p : Pqueue) (mrm : Mrm) :
    (down7New t s f i p ⟨true,1,true,true,true,true,true,false,true,some mrm,true⟩).down7 = none ∧
    (down7New t s f i p ⟨true,1,true,true,true,true,true,false,true,some mrm,true⟩).acquired =
      [.down7,.servAddr,.napCond,.mutexAttr,.stateMutex,.executor] ∧
    (down7New t s f i p ⟨true,1,true,true,true,true,true,false,true,some mrm,true⟩).released =
      [.mutexAttr,.executor,.pq,.stateMutex,.napCond,.servAddr,.down7] ∧
    (down7New t s f i p ⟨true,1,true,true,true,true,true,false,true,some mrm,true⟩).fields.pq =
      none ∧
    (down7New t s f i p ⟨true,1,true,true,false,true,true,true,true,some mrm,true⟩).down7 =
      some (Session.down7New mrm) ∧
    .stateMutex ∉
      (down7New t s f i p ⟨true,1,true,true,false,true,true,true,true,some mrm,true⟩).acquired ∧
    (down7New t s f i p ⟨true,1,true,true,true,true,true,true,true,some mrm,true⟩).fields.mrmOpenedFor =
      some (some s,none) ∧
    (down7New t s f i p ⟨true,1,true,true,true,true,true,true,true,some mrm,true⟩).fields.feedtype =
      some f := by
  have h1 : (1 : CInt) ||| t ≠ 0 := by rw [BitVec.or_comm]; exact or_ne_zero (by decide)
  unfold down7New
  simp only [if_neg h1]
  simp [cleanup,chain,Label.releases,heldAfterMutex,releasedInMutex,Fields.openMrm,Fields.unset]

end Setup
end Ldm7
