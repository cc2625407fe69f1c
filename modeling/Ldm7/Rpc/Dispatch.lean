import Ldm7.Rpc.Callout

/-! Dispatch of received calls (`svc_getreqset`, `svc_getreqsock`). Both run the same
batch loop on a transport: receive a message, authenticate it, scan the callout list
for its program and version, and repeat while the transport has more requests. -/
namespace Ldm7
namespace Dispatch

open Callout

inductive AuthStat
  | ok | badcred | rejectedcred | badverf | rejectedverf | tooweak | invalidresp | failed
  deriving DecidableEq

/-- The fields of a call message that dispatch reads. -/
structure CallMsg where
  cbProg : UInt64
  cbVers : UInt64
  cbProc : UInt64
  deriving DecidableEq

/-- What the loop does with an authenticated or rejected call: `svcerr_auth`, a call
of the dispatch routine, `svcerr_progvers` or `svcerr_noprog`. -/
inductive SvcReply
  | authError (why : AuthStat)
  | dispatch (d : Dispatch)
  | progMismatch (low high : UInt64)
  | progUnavail
  deriving DecidableEq

/-- The scan of the callout list, with `prog_found`, `low_vers` and `high_vers`. -/
def matchCallout (prog vers : UInt64) : List SvcCallout → Bool → UInt64 → UInt64 → SvcReply
  | [], progFound, low, high => if progFound then .progMismatch low high else .progUnavail
  | s :: rest, progFound, low, high =>
    if s.scProg = prog then
      if s.scVers = vers then .dispatch s.scDispatch
      else matchCallout prog vers rest true (if s.scVers < low then s.scVers else low)
        (if s.scVers > high then s.scVers else high)
    else matchCallout prog vers rest progFound low high

def ulongMax : UInt64 := 0xFFFFFFFFFFFFFFFF

/-- One received call: `_authenticate`'s verdict (`authenticate`), then the scan. -/
def svcDecide (authenticate : CallMsg → AuthStat) (head : List SvcCallout) (m : CallMsg) :
    SvcReply :=
  if authenticate m ≠ .ok then .authError (authenticate m)
  else matchCallout m.cbProg m.cbVers head false ulongMax 0

inductive XprtStat
  | died | idle | moreReqs
  deriving DecidableEq

/-- One pass of the batch loop: the message `SVC_RECV` gives (`none` when it fails) and
the `SVC_STAT` that follows. -/
structure Recv where
  msg : Option CallMsg
  stat : XprtStat
  deriving DecidableEq

/-- The `do ... while (stat == XPRT_MOREREQS)` loop on one transport: the replies, and
whether `SVC_DESTROY` ran. -/
def getreqLoop (authenticate : CallMsg → AuthStat) (head : List SvcCallout) :
    List Recv → List SvcReply × Bool
  | [] => ([],false)
  | r :: rs =>
    let out := (r.msg.map (svcDecide authenticate head)).toList
    match r.stat with
    | .died => (out,true)
    | .idle => (out,false)
    | .moreReqs => let o := getreqLoop authenticate head rs; (out ++ o.1,o.2)

/-- `svc_getreqsock(sock)` on the transport `xports[sock]`, whose passes are `input sock`. -/
def svcGetreqsock (authenticate : CallMsg → AuthStat) (head : List SvcCallout)
    (input : Nat → List Recv) (sock : Nat) : List SvcReply × Bool :=
  getreqLoop authenticate head (input sock)

/-- `svc_getreqset(readfds)` (`FD_SETSIZE` build): the loop on every ready socket below
`fdSetSize`, in order. -/
def svcGetreqset (authenticate : CallMsg → AuthStat) (head : List SvcCallout)
    (input : Nat → List Recv) (fdSetSize : Nat) (readfds : Nat → Bool) :
    List (Nat × (List SvcReply × Bool)) :=
  (List.range fdSetSize).filterMap fun sock =>
    if readfds sock then some (sock,getreqLoop authenticate head (input sock)) else none

/-- The passes the loop makes: up to the first whose status is not `XPRT_MOREREQS`. -/
def served : List Recv → List Recv
  | [] => []
  | r :: rs => if r.stat = .moreReqs then r :: served rs else [r]

theorem u64_le_of_lt {a b : UInt64} (h : a < b) : a ≤ b := UInt64.not_lt.mp (UInt64.lt_asymm h)

theorem u64_le_ulongMax (x : UInt64) : x ≤ ulongMax := by
  rw [UInt64.le_def,BitVec.le_def]; have := x.toBitVec.isLt; simp [ulongMax]; omega

theorem u64_zero_le (x : UInt64) : 0 ≤ x := by rw [UInt64.le_def,BitVec.le_def]; simp

theorem u64_le_antisymm {x y : UInt64} (h1 : x ≤ y) (h2 : y ≤ x) : x = y := by
  rw [UInt64.le_def,BitVec.le_def] at h1 h2
  exact UInt64.toNat.inj (by simp only [UInt64.toNat]; omega)

def IsLowVers (head : List SvcCallout) (prog lo : UInt64) : Prop :=
  (∃ s ∈ head, s.scProg = prog ∧ s.scVers = lo) ∧ ∀ s ∈ head, s.scProg = prog → lo ≤ s.scVers

def IsHighVers (head : List SvcCallout) (prog hi : UInt64) : Prop :=
  (∃ s ∈ head, s.scProg = prog ∧ s.scVers = hi) ∧ ∀ s ∈ head, s.scProg = prog → s.scVers ≤ hi

theorem lowStep_spec (a lo : UInt64) :
    (if a < lo then a else lo) ≤ lo ∧ (if a < lo then a else lo) ≤ a ∧
      ((if a < lo then a else lo) = a ∨ (if a < lo then a else lo) = lo) := by
  split_ifs with h
  exacts [⟨u64_le_of_lt h,UInt64.le_refl _,.inl rfl⟩,⟨UInt64.le_refl _,UInt64.not_lt.mp h,.inr rfl⟩]

theorem highStep_spec (a hi : UInt64) :
    hi ≤ (if a > hi then a else hi) ∧ a ≤ (if a > hi then a else hi) ∧
      ((if a > hi then a else hi) = a ∨ (if a > hi then a else hi) = hi) := by
  split_ifs with h
  exacts [⟨u64_le_of_lt h,UInt64.le_refl _,.inl rfl⟩,⟨UInt64.le_refl _,UInt64.not_lt.mp h,.inr rfl⟩]

theorem bound_origin {x c a b : UInt64} {R : Prop} (hx : x = c ∨ R) (hc : c = a ∨ c = b) :
    x = b ∨ x = a ∨ R := by
  rcases hx with rfl | h
  · exact hc.symm.imp id .inl
  · exact .inr (.inr h)

/-- With no entry for the exact version, the scan runs to the end of the list and its
bounds are the extremes of the starting bounds and the versions registered for the
program. -/
theorem matchCallout_noMatch {prog vers : UInt64} (l : List SvcCallout)
    (hl : ∀ s ∈ l, s.key ≠ (prog,vers)) (f : Bool) (lo hi : UInt64) :
    ∃ lo' hi', matchCallout prog vers l f lo hi =
        (if f || l.any (·.scProg == prog) then .progMismatch lo' hi' else .progUnavail) ∧
      (lo' = lo ∨ ∃ s ∈ l, s.scProg = prog ∧ s.scVers = lo') ∧ lo' ≤ lo ∧
      (∀ s ∈ l, s.scProg = prog → lo' ≤ s.scVers) ∧
      (hi' = hi ∨ ∃ s ∈ l, s.scProg = prog ∧ s.scVers = hi') ∧ hi ≤ hi' ∧
      (∀ s ∈ l, s.scProg = prog → s.scVers ≤ hi') := by
  induction l generalizing f lo hi with
  | nil => exact ⟨lo,hi,by simp [matchCallout],.inl rfl,UInt64.le_refl _,by simp,.inl rfl,
      UInt64.le_refl _,by simp⟩
  | cons s rest ih =>
    have hrest := fun x hx => hl x (.tail _ hx)
    simp only [List.any_cons,List.mem_cons,forall_eq_or_imp,exists_eq_or_imp]
    by_cases hp : s.scProg = prog
    · have hv : s.scVers ≠ vers := fun hv => hl s (.head _) (by simp [SvcCallout.key,hp,hv])
      obtain ⟨lo1,lo1s,lo1e⟩ := lowStep_spec s.scVers lo
      obtain ⟨hi1,hi1s,hi1e⟩ := highStep_spec s.scVers hi
      obtain ⟨lo',hi',he,hlo,hlole,hlos,hhi,hhile,hhis⟩ := ih hrest true _ _
      have hpv : ∀ x, x = s.scVers → s.scProg = prog ∧ s.scVers = x := fun _ h => ⟨hp,h.symm⟩
      exact ⟨lo',hi',by simp [matchCallout,hp,hv,he],(bound_origin hlo lo1e).imp_right
        (Or.imp_left (hpv _)),UInt64.le_trans hlole lo1,⟨fun _ => UInt64.le_trans hlole lo1s,hlos⟩,
        (bound_origin hhi hi1e).imp_right (Or.imp_left (hpv _)),UInt64.le_trans hi1 hhile,
        ⟨fun _ => UInt64.le_trans hi1s hhile,hhis⟩⟩
    · obtain ⟨lo',hi',he,hlo,hlole,hlos,hhi,hhile,hhis⟩ := ih hrest f lo hi
      exact ⟨lo',hi',by simp [matchCallout,hp,he],hlo.imp_right .inr,hlole,
        ⟨fun h => absurd h hp,hlos⟩,hhi.imp_right .inr,hhile,⟨fun h => absurd h hp,hhis⟩⟩

theorem matchCallout_match {prog vers : UInt64} {l : List SvcCallout} (hk : Keyed l)
    {s : SvcCallout} (hs : s ∈ l) (hkey : s.key = (prog,vers)) (f : Bool) (lo hi : UInt64) :
    matchCallout prog vers l f lo hi = .dispatch s.scDispatch := by
  induction l generalizing f lo hi with
  | nil => simp at hs
  | cons x rest ih =>
    rw [Keyed,List.map_cons,List.nodup_cons] at hk
    have hxs : x.key = (prog,vers) → x = s := fun hx => by
      rcases List.mem_cons.mp hs with rfl | hs
      · rfl
      · exact absurd (List.mem_map.mpr ⟨s,hs,hkey.trans hx.symm⟩) hk.1
    simp only [matchCallout]
    split_ifs with hp hv
    · rw [hxs (by simp [SvcCallout.key,hp,hv])]
    all_goals
      have hne : s ≠ x := fun he => by subst he; simp_all [SvcCallout.key]
      exact ih hk.2 (List.mem_of_ne_of_mem hne hs) _ _ _

/-- How the RPC server answers a call: `AUTH_ERROR` when authentication fails, else the
dispatch routine registered for the program and version, else `PROG_MISMATCH` with the
least and greatest versions registered for the program, else `PROG_UNAVAIL`. -/
def Decides (authenticate : CallMsg → AuthStat) (head : List SvcCallout) (m : CallMsg)
    (r : SvcReply) : Prop :=
  (authenticate m ≠ .ok → r = .authError (authenticate m)) ∧
  (authenticate m = .ok → ∀ s ∈ head, s.key = (m.cbProg,m.cbVers) → r = .dispatch s.scDispatch) ∧
  (authenticate m = .ok → (∀ s ∈ head, s.key ≠ (m.cbProg,m.cbVers)) →
    (∃ s ∈ head, s.scProg = m.cbProg) →
    ∃ lo hi, r = .progMismatch lo hi ∧ IsLowVers head m.cbProg lo ∧ IsHighVers head m.cbProg hi) ∧
  (authenticate m = .ok → (∀ s ∈ head, s.scProg ≠ m.cbProg) → r = .progUnavail)

theorem svcDecide_decides (authenticate : CallMsg → AuthStat) {head : List SvcCallout}
    (hk : Keyed head) (m : CallMsg) : Decides authenticate head m (svcDecide authenticate head m) := by
  refine ⟨fun h => by simp [svcDecide,h],
    fun h s hs hkey => by simp [svcDecide,h,matchCallout_match hk hs hkey],fun h hn hp => ?_,
    fun h hn => ?_⟩
  · obtain ⟨lo,hi,he,hlo,-,hlos,hhi,-,hhis⟩ := matchCallout_noMatch head hn false ulongMax 0
    have hany : head.any (·.scProg == m.cbProg) = true := by simpa using hp
    obtain ⟨s,hs,hps⟩ := hp
    refine ⟨lo,hi,by simp [svcDecide,h,he,hany],⟨?_,hlos⟩,⟨?_,hhis⟩⟩
    · rcases hlo with rfl | h'
      exacts [⟨s,hs,hps,u64_le_antisymm (u64_le_ulongMax _) (hlos s hs hps)⟩,h']
    · rcases hhi with rfl | h'
      exacts [⟨s,hs,hps,u64_le_antisymm (hhis s hs hps) (u64_zero_le _)⟩,h']
  · have hn' : ∀ s ∈ head, s.key ≠ (m.cbProg,m.cbVers) := fun s hs he =>
      hn s hs (congrArg Prod.fst he)
    obtain ⟨lo,hi,he,-⟩ := matchCallout_noMatch head hn' false ulongMax 0
    have hany : head.any (·.scProg == m.cbProg) = false := by simpa using hn
    simp [svcDecide,h,he,hany]

theorem getreqLoop_fst (authenticate : CallMsg → AuthStat) (head : List SvcCallout)
    (rs : List Recv) :
    (getreqLoop authenticate head rs).1 =
      ((served rs).filterMap Recv.msg).map (svcDecide authenticate head) := by
  induction rs with
  | nil => rfl
  | cons r rs ih => rcases r with ⟨_|m,_|_|_⟩ <;> simp [getreqLoop,served,ih]

theorem svcGetreqset_eq (authenticate : CallMsg → AuthStat) (head : List SvcCallout)
    (input : Nat → List Recv) (fdSetSize : Nat) (readfds : Nat → Bool) :
    svcGetreqset authenticate head input fdSetSize readfds =
      ((List.range fdSetSize).filter readfds).map
        (fun sock => (sock,svcGetreqsock authenticate head input sock)) := by
  unfold svcGetreqset svcGetreqsock
  induction List.range fdSetSize with
  | nil => rfl
  | cons sock l ih => by_cases h : readfds sock <;> simp [List.filter_cons,h,ih]

/-- On a keyed callout list, `svc_getreqsock` and `svc_getreqset` (on each ready socket)
take, for every message they receive, the decision `Decides` describes. -/
theorem svc_getreq_decision (authenticate : CallMsg → AuthStat) (head : List SvcCallout)
    (hk : Keyed head) (input : Nat → List Recv) (fdSetSize : Nat) (readfds : Nat → Bool)
    (sock : Nat) :
    (svcGetreqsock authenticate head input sock).1 =
      ((served (input sock)).filterMap Recv.msg).map (svcDecide authenticate head) ∧
    svcGetreqset authenticate head input fdSetSize readfds =
      ((List.range fdSetSize).filter readfds).map
        (fun s => (s,svcGetreqsock authenticate head input s)) ∧
    ∀ m, Decides authenticate head m (svcDecide authenticate head m) :=
  ⟨getreqLoop_fst _ _ _,svcGetreqset_eq _ _ _ _ _,svcDecide_decides authenticate hk⟩

/-- Versions 6 and 8 of program 100 are registered; a call for version 7 gets
`PROG_MISMATCH` with bounds 6 and 8. -/
theorem svc_getreq_decision_example :
    Keyed [⟨100,6,1⟩,⟨100,8,2⟩] ∧
      Decides (fun _ => .ok) [⟨100,6,1⟩,⟨100,8,2⟩] ⟨100,7,0⟩ (.progMismatch 6 8) := by
  have hk : Keyed [⟨100,6,1⟩,⟨100,8,2⟩] := by decide
  have h := (svc_getreq_decision (fun _ => .ok) _ hk (fun _ => []) 0 (fun _ => false) 0).2.2
    ⟨100,7,0⟩
  exact ⟨hk,by rwa [show svcDecide (fun _ => .ok) [⟨100,6,1⟩,⟨100,8,2⟩] ⟨100,7,0⟩ =
    .progMismatch 6 8 by decide] at h⟩

end Dispatch
end Ldm7
