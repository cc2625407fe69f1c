import Ldm7.Basic
import Ldm7.Protocol.LdmProxy

/-! Asking an upstream LDM for data with FEEDME: `make_request` (`requester6.c`) on an LDM-6
and `forn_signon` (`ldm5_clnt.c`) on an LDM-5. What each call and `exitIfDone` return is
input, one record for each pass of a loop; a loop that asks again after the last record is
`none`. -/
namespace Ldm7
namespace Feedme

structure Timestamp where
  tvSec : Int
  tvUsec : Int
  deriving DecidableEq

structure ProdSpec where
  feedtype : Feedtype
  pattern : String
  deriving DecidableEq

/-- `prod_class_t`: the times `from` and `to`, and the specifications `psa`. -/
structure ProdClass where
  fromTime : Timestamp
  toTime : Timestamp
  psa : List ProdSpec
  deriving DecidableEq

inductive LdmErrt6
  | ok | shuttingDown | dontSend | resend | restart | redirect | reclass | badPattern
  deriving DecidableEq

/-- `fornme_reply_t`: code 0 carries the upstream's `id`, `RECLASS` a product-class, and
the other codes nothing. -/
inductive FornmeReply
  | ok (id : UInt32)
  | reclass (prodClass : ProdClass)
  | other (code : LdmErrt6) (h : code ≠ .ok ∧ code ≠ .reclass)

/-- The codes of the errors `make_request` returns; `errno` stands for the system's error
number. -/
inductive Req6Code
  | errno | disconnect | badPattern | notAllowed | badReclass | systemError
  deriving DecidableEq

/-- An `ErrorObj`: its code and the format of its message. The cause chained to a
disconnection and the class the message prints are not modelled. -/
structure ErrorObj where
  code : Req6Code
  msg : String
  deriving DecidableEq

structure FeedPar where
  maxHereis : UInt32
  prodClass : ProdClass
  deriving DecidableEq

/-- The environment of one pass of the loop: what `exitIfDone(0)` returns (nonzero is
`true`), what `feedme_6` returns (`none` is `NULL`), and whether `dup_prod_class` copies
a RECLASS class. -/
structure Pass where
  notDone : Bool
  reply : Option FornmeReply
  cloneOk : Bool

/-- The variables of `make_request`'s loop, `*id` (`none` until written), and the FEEDME
requests made so far. -/
structure Request where
  errObj : Option ErrorObj
  finished : Bool
  feedpar : FeedPar
  id : Option UInt32
  sent : List FeedPar

/-- The body of the loop after `feedme_6` returned `reply` for `r.feedpar`. -/
def handleReply (tsNone : Timestamp) (r : Request) (cloneOk : Bool) :
    Option FornmeReply → Request
  | none => { r with errObj := some ⟨.disconnect,"Upstream LDM didn't reply to FEEDME request"⟩ }
  | some (.ok id) => { r with id := some id, errObj := none, finished := true }
  | some (.other code _) =>
    if code = .badPattern then
      { r with errObj := some ⟨.badPattern,"Upstream LDM can't compile pattern: %s"⟩ }
    else r
  | some (.reclass allow) =>
    if allow.psa.length = 0 then
      { r with errObj := some ⟨.notAllowed,"Request denied by upstream LDM: %s"⟩ }
    else if allow.fromTime = tsNone ∨ allow.toTime = tsNone then
      { r with errObj := some ⟨.badReclass,"Invalid RECLASS from upstream LDM: %s"⟩ }
    else if !cloneOk then
      { r with errObj := some ⟨.systemError,"Couldn't clone product-class \"%s\""⟩ }
    else { r with feedpar := { r.feedpar with prodClass := allow }, errObj := none }

/-- `while (!errObj && !finished && exitIfDone(0))`, one pass for each record. -/
def requestLoop (tsNone : Timestamp) : Request → List Pass → Option Request
  | r, [] => if r.errObj.isSome || r.finished then some r else none
  | r, p :: ps =>
    if r.errObj.isSome || r.finished || !p.notDone then some r
    else requestLoop tsNone
      (handleReply tsNone { r with sent := r.sent ++ [r.feedpar] } p.cloneOk p.reply) ps

def maxHereis (isPrimary : Bool) : UInt32 := if isPrimary then 4294967295 else 0

/-- `make_request`, with whether `dup_prod_class` copies `prodClass`: the error object it
returns, `*id`, and the FEEDME requests it made. -/
def makeRequest (tsNone : Timestamp) (prodClass : ProdClass) (isPrimary dupOk : Bool)
    (passes : List Pass) : Option (Option ErrorObj × Option UInt32 × List FeedPar) :=
  if !dupOk then some (some ⟨.errno,"Couldn't duplicate product-class: %s"⟩,none,[])
  else (requestLoop tsNone ⟨none,false,⟨maxHereis isPrimary,prodClass⟩,none,[]⟩ passes).map
    fun r => (r.errObj,r.id,r.sent)

inductive ClntStat
  | success | timedout | progversmismatch | progunavail | pmapfailure | prognotregistered
  | autherror | cantrecv | unknownhost | other
  deriving DecidableEq

inductive LdmReplyt
  | reclass (newclssp : ProdClass)
  | code (c : LdmProxy.LdmErrt) (h : c ≠ .reclass)

/-- What `forn_signon` returns: 0, or an `errno` value (`errno` is the one `dup` sets). -/
inductive SignonStatus
  | ok | etimedout | econnaborted | econnrefused | errno
  deriving DecidableEq

/-- One call of `h_clnt_call`: its status, whether `re_errno` is `ECONNRESET`, and the reply. -/
structure Call5 where
  rpcStat : ClntStat
  reErrnoReset : Bool
  reply : LdmReplyt

/-- `forn_signon` from the label `retry` with `clssp`, `dupOk` whether `dup` succeeds: the
status, `*reqpp` afterwards, and the classes it sent. -/
def signonLoop (reqp : ProdClass) (dupOk : Bool) (clssp : ProdClass) :
    List Call5 → Option (SignonStatus × ProdClass × List ProdClass)
  | [] => none
  | c :: cs =>
    (match c.rpcStat with
     | .success =>
       match c.reply with
       | .code .ok _ => if dupOk then some (.ok,clssp,[]) else some (.errno,reqp,[])
       | .reclass newclssp =>
         if newclssp.psa.length = 0 then some (.econnrefused,reqp,[])
         else signonLoop reqp dupOk newclssp cs
       | .code .shuttingDown _ => some (.econnaborted,reqp,[])
       | .code _ _ => some (.econnaborted,reqp,[])
     | .timedout => some (.etimedout,reqp,[])
     | .progversmismatch | .progunavail | .pmapfailure | .prognotregistered | .autherror =>
       some (.econnaborted,reqp,[])
     | .cantrecv => if c.reErrnoReset then some (.econnrefused,reqp,[]) else some (.econnaborted,reqp,[])
     | _ => some (.econnaborted,reqp,[]) : Option (SignonStatus × ProdClass × List ProdClass)).map
      fun r => (r.1,r.2.1,clssp :: r.2.2)

/-- `forn_signon` for FEEDME: `clssp = *reqpp` at the first pass. -/
def fornSignon (reqp : ProdClass) (dupOk : Bool) (calls : List Call5) :
    Option (SignonStatus × ProdClass × List ProdClass) :=
  signonLoop reqp dupOk reqp calls

section
variable (tsNone : Timestamp)

def Request.Live (r : Request) : Prop := r.errObj = none ∧ r.finished = false

/-- The replies after which `make_request` calls `feedme_6` again: a RECLASS with
specifications and both times set that it can copy, and every code it does not test. -/
def asksAgain (cloneOk : Bool) : Option FornmeReply → Prop
  | some (.reclass allow) =>
    allow.psa ≠ [] ∧ allow.fromTime ≠ tsNone ∧ allow.toTime ≠ tsNone ∧ cloneOk = true
  | some (.other code _) => code ≠ .badPattern
  | _ => False

theorem handleReply_live_iff {r : Request} (hr : r.Live) (cloneOk : Bool)
    (reply : Option FornmeReply) :
    (handleReply tsNone r cloneOk reply).Live ↔ asksAgain tsNone cloneOk reply := by
  obtain ⟨he,hf⟩ := hr
  rcases reply with _ | (id | allow | ⟨code,h⟩)
  · simp [handleReply,asksAgain,Request.Live]
  · simp [handleReply,asksAgain,Request.Live]
  · simp only [handleReply,asksAgain]
    split_ifs <;> simp_all [Request.Live]
    tauto
  · simp only [handleReply,asksAgain]
    split_ifs <;> simp_all [Request.Live]

theorem requestLoop_nil_eq_none (r : Request) : requestLoop tsNone r [] = none ↔ r.Live := by
  rcases r with ⟨_ | _,_ | _,_,_,_⟩ <;> simp [requestLoop,Request.Live]

theorem requestLoop_append_of_none {r : Request} {ps : List Pass}
    (h : requestLoop tsNone r ps = none) :
    ∃ r', r'.Live ∧ ∀ qs, requestLoop tsNone r (ps ++ qs) = requestLoop tsNone r' qs := by
  induction ps generalizing r with
  | nil => exact ⟨r,(requestLoop_nil_eq_none tsNone r).mp h,fun _ => rfl⟩
  | cons p ps ih =>
    simp only [requestLoop] at h
    split_ifs at h with hc
    obtain ⟨r',hl,hr'⟩ := ih h
    refine ⟨r',hl,fun qs => ?_⟩
    rw [List.cons_append]
    simp only [requestLoop,if_neg hc]
    exact hr' qs

theorem requestLoop_single {r : Request} (hr : r.Live) (reply : Option FornmeReply)
    (cloneOk : Bool) :
    requestLoop tsNone r [⟨true,reply,cloneOk⟩] = none ↔ asksAgain tsNone cloneOk reply := by
  have hpass : requestLoop tsNone r [⟨true,reply,cloneOk⟩] = requestLoop tsNone
      (handleReply tsNone { r with sent := r.sent ++ [r.feedpar] } cloneOk reply) [] := by
    simp [requestLoop,hr.1,hr.2]
  rw [hpass,requestLoop_nil_eq_none]
  exact handleReply_live_iff tsNone (r := { r with sent := r.sent ++ [r.feedpar] }) hr ..

/-- After any passes after which `make_request` still asks, one more reply makes it ask
again exactly when the reply is a RECLASS with specifications and both times set that it
can copy, or any code other than 0, BADPATTERN and RECLASS. -/
theorem makeRequest_asks_again_iff (c : ProdClass) (isPrimary : Bool) (ps : List Pass)
    (hps : makeRequest tsNone c isPrimary true ps = none) (reply : Option FornmeReply)
    (cloneOk : Bool) :
    makeRequest tsNone c isPrimary true (ps ++ [⟨true,reply,cloneOk⟩]) = none ↔
      asksAgain tsNone cloneOk reply := by
  simp only [makeRequest,Bool.not_true,Bool.false_eq_true,if_false,Option.map_eq_none'] at hps ⊢
  obtain ⟨r',hl,hr'⟩ := requestLoop_append_of_none tsNone hps
  rw [hr']
  exact requestLoop_single tsNone hl reply cloneOk

end

theorem makeRequest_asks_again_iff_reclass :
    makeRequest ⟨-1,0⟩ ⟨⟨0,0⟩,⟨0,0⟩,[]⟩ false true [] = none ∧
      (makeRequest ⟨-1,0⟩ ⟨⟨0,0⟩,⟨0,0⟩,[]⟩ false true
          ([] ++ [⟨true,some (.reclass ⟨⟨1,0⟩,⟨2,0⟩,[⟨1,".*"⟩]⟩),true⟩]) = none ↔
        asksAgain ⟨-1,0⟩ true (some (.reclass ⟨⟨1,0⟩,⟨2,0⟩,[⟨1,".*"⟩]⟩))) :=
  ⟨rfl,makeRequest_asks_again_iff ⟨-1,0⟩ ⟨⟨0,0⟩,⟨0,0⟩,[]⟩ false [] rfl _ true⟩

/-- An upstream that answers SHUTTING_DOWN and then 0: `make_request` calls `feedme_6` a
second time with the same request and returns success with the second reply's `id`. -/
theorem makeRequest_asks_again_after_shuttingDown (tsNone : Timestamp) (c : ProdClass)
    (isPrimary : Bool) (id : UInt32) :
    makeRequest tsNone c isPrimary true
        [⟨true,some (.other .shuttingDown (by decide)),true⟩,⟨true,some (.ok id),true⟩] =
      some (none,some id,[⟨maxHereis isPrimary,c⟩,⟨maxHereis isPrimary,c⟩]) :=
  rfl

/-- The calls after which `forn_signon` calls FEEDME again: a successful call answered by
a RECLASS with specifications. -/
def retries (c : Call5) : Prop := c.rpcStat = .success ∧ ∃ n, c.reply = .reclass n ∧ n.psa ≠ []

theorem signonLoop_cons_of_not_retries {c : Call5} (h : ¬retries c) (reqp clssp : ProdClass)
    (dupOk : Bool) (cs : List Call5) : ∃ r, signonLoop reqp dupOk clssp (c :: cs) = some r := by
  rcases c with ⟨stat,reset,reply⟩
  by_cases hs : stat = .success
  · subst hs
    rcases reply with n | ⟨code,hc⟩
    · have hn : n.psa.length = 0 := by simpa [retries] using h
      simp [signonLoop,hn]
    · cases code <;> first | exact absurd rfl hc | (cases dupOk <;> simp [signonLoop])
  · cases stat <;> first | exact absurd rfl hs | (cases reset <;> simp [signonLoop])

theorem signonLoop_cons_of_retries {c : Call5} {n : ProdClass} (hs : c.rpcStat = .success)
    (hr : c.reply = .reclass n) (hn : n.psa ≠ []) (reqp clssp : ProdClass) (dupOk : Bool)
    (cs : List Call5) :
    signonLoop reqp dupOk clssp (c :: cs) =
      (signonLoop reqp dupOk n cs).map fun r => (r.1,r.2.1,clssp :: r.2.2) := by
  rcases c with ⟨stat,reset,reply⟩
  dsimp only at hs hr
  subst hs hr
  simp [signonLoop,hn]

theorem signonLoop_append_of_none {reqp clssp : ProdClass} {dupOk : Bool} {cs : List Call5}
    (h : signonLoop reqp dupOk clssp cs = none) :
    ∃ clssp' pre, ∀ qs, signonLoop reqp dupOk clssp (cs ++ qs) =
      (signonLoop reqp dupOk clssp' qs).map fun r => (r.1,r.2.1,pre ++ r.2.2) := by
  induction cs generalizing clssp with
  | nil => exact ⟨clssp,[],fun qs => by simp⟩
  | cons c cs ih =>
    by_cases hc : retries c
    · obtain ⟨hs,n,hr,hn⟩ := hc
      rw [signonLoop_cons_of_retries hs hr hn,Option.map_eq_none'] at h
      obtain ⟨clssp',pre,hq⟩ := ih h
      refine ⟨clssp',clssp :: pre,fun qs => ?_⟩
      rw [List.cons_append,signonLoop_cons_of_retries hs hr hn,hq,Option.map_map]
      rfl
    · obtain ⟨r,hr⟩ := signonLoop_cons_of_not_retries hc reqp clssp dupOk cs
      rw [hr] at h; cases h

theorem signonLoop_single (reqp clssp : ProdClass) (dupOk : Bool) (c : Call5) :
    signonLoop reqp dupOk clssp [c] = none ↔ retries c := by
  by_cases hc : retries c
  · obtain ⟨hs,n,hr,hn⟩ := hc
    simp [signonLoop_cons_of_retries hs hr hn,signonLoop,retries,hs,hr,hn]
  · obtain ⟨r,hr⟩ := signonLoop_cons_of_not_retries hc reqp clssp dupOk []
    simp [hr,hc]

/-- After any calls after which `forn_signon` still asks, one more call makes it ask again
exactly when it succeeds with a RECLASS carrying specifications: every other reply code,
SHUTTING_DOWN and DONT_SEND among them, ends it. -/
theorem fornSignon_asks_again_iff (reqp : ProdClass) (dupOk : Bool) (cs : List Call5)
    (hcs : fornSignon reqp dupOk cs = none) (c : Call5) :
    fornSignon reqp dupOk (cs ++ [c]) = none ↔ retries c := by
  obtain ⟨clssp',pre,hq⟩ := signonLoop_append_of_none hcs
  rw [fornSignon,hq,Option.map_eq_none']
  exact signonLoop_single reqp clssp' dupOk c

theorem fornSignon_asks_again_iff_shuttingDown :
    fornSignon ⟨⟨0,0⟩,⟨0,0⟩,[]⟩ true [] = none ∧
      (fornSignon ⟨⟨0,0⟩,⟨0,0⟩,[]⟩ true ([] ++ [⟨.success,false,.code .shuttingDown (by decide)⟩]) =
          none ↔ retries ⟨.success,false,.code .shuttingDown (by decide)⟩) :=
  ⟨rfl,fornSignon_asks_again_iff _ true [] rfl _⟩

end Feedme
end Ldm7
