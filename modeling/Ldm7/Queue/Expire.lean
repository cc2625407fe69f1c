import Mathlib.Algebra.Order.Field.Rat
import Mathlib.Tactic.Linarith
import Ldm7.Protocol.Feedme

/-! Deleting old products from a product-queue (`pqexpire.c`). `main`'s loop deletes the
product after the queue's cursor again and again, keeps statistics on what it deleted, and
ends a pass at the end of the queue, at a lock or deadlock, or by its depth heuristic. What
the queue, `exitIfDone` and the clock return is input, one record for each pass.
`d_diff_timestamp`, `TS_ZERO` and `TS_ENDT` are parameters. -/
namespace Ldm7
namespace Pqexpire

open Feedme (Timestamp)

/-- What `pq_seqdel` returns: ENOERR, PQUEUE_END, EAGAIN or EACCES at a locked product,
EDEADLK, or another error. -/
inductive SeqdelStatus
  | enoerr | pqueueEnd | eagain | eacces | edeadlk | other
  deriving DecidableEq

inductive SequenceStatus
  | enoerr | pqueueEnd | other
  deriving DecidableEq

structure Expirestats where
  starttime : Timestamp
  firsthit : Timestamp
  lasthit : Timestamp
  nprods : UInt32
  nbytes : UInt32

structure State where
  stats : Expirestats
  clssTo : Timestamp
  maxLatency : ℚ

/-- One pass of the loop: `exitIfDone(1)` of its test; `pq_seqdel`'s status, the bytes it
recycled and the deleted product's arrival; `exitIfDone(1)` after it; `pq_ctimestamp`;
`pq_sequence` and `exitIfDone(1)` after it; and, after the `switch`, `exitIfDone(1)`, the
time `set_timestamp` reads after the sleep and `exitIfDone(1)` before it (`false`: the
process exits). -/
structure Iter where
  notDone : Bool
  status : SeqdelStatus
  nr : Nat
  ts : Timestamp
  notDoneSeqdel : Bool
  cursor : Timestamp
  sequence : SequenceStatus
  notDoneSequence : Bool
  notDoneSwitch : Bool
  notDoneSleep : Bool
  now : Timestamp

/-- Why a pass ended: the depth heuristic, PQUEUE_END, a lock past `clss.to`, `pq_sequence`
failing after a lock, or EDEADLK. -/
inductive PassEnd
  | depth | queueEnd | lockAhead | sequenceEnd | deadlock
  deriving DecidableEq

/-- What `pq_seqdel` deleted in a pass: `nr` bytes of a product that arrived at `ts`, when
it returned ENOERR with `nr` not 0. -/
def Iter.deleted (c : Iter) : Option (Nat × Timestamp) :=
  if c.status = .enoerr ∧ c.nr ≠ 0 then some (c.nr,c.ts) else none

/-- What one pass of the loop does: `continue` with the state and the product it counted,
sleep after a pass and start the next one, or `exit`. -/
inductive Outcome
  | next (s : State) (counted : Option (Nat × Timestamp))
  | passEnds (s : State) (why : PassEnd)
  | exit (code : Nat)

section
variable (interval age : Int) (dDiff : Timestamp → Timestamp → ℚ)

/-- `stats` after `pq_seqdel` recycled `d.1` bytes of a product that arrived at `d.2`. -/
def Expirestats.record (st : Expirestats) (d : Nat × Timestamp) : Expirestats :=
  { st with
    nprods := st.nprods + 1
    nbytes := st.nbytes + d.1.toUInt32
    firsthit := if dDiff st.firsthit d.2 > 0 then d.2 else st.firsthit
    lasthit := if dDiff d.2 st.lasthit > 0 then d.2 else st.lasthit }

def latency (maxLatency : ℚ) (cursor ts : Timestamp) : ℚ :=
  if dDiff cursor ts > maxLatency then dDiff cursor ts else maxLatency

/-- Leaving the `switch` by `break`: `exitIfDone(1)`, out of the loop to `exit(0)` when
`interval` is 0, else `sleep`, `exitIfDone(1)`, `clss.to` `age` seconds before the time
read, the cursor back to `TS_ZERO` and `max_latency` back to 0. -/
def endPass (s : State) (c : Iter) (why : PassEnd) : Outcome :=
  if !c.notDoneSwitch then .exit 1
  else if interval = 0 then .exit 0
  else if !c.notDoneSleep then .exit 1
  else .passEnds { s with clssTo := ⟨c.now.tvSec - age,c.now.tvUsec⟩, maxLatency := 0 } why

/-- One pass of `main`'s `while (exitIfDone(1))`. -/
def step (s : State) (c : Iter) : Outcome :=
  if !c.notDone then .exit 1
  else if !c.notDoneSeqdel then .exit 1
  else match c.status with
    | .enoerr =>
      if c.nr ≠ 0 then
        .next { s with
          stats := s.stats.record dDiff (c.nr,c.ts)
          maxLatency := latency dDiff s.maxLatency c.cursor c.ts } (some (c.nr,c.ts))
      else if interval ≠ 0 ∧
          dDiff c.cursor s.clssTo > interval + latency dDiff s.maxLatency c.cursor c.ts then
        endPass interval age s c .depth
      else .next { s with maxLatency := latency dDiff s.maxLatency c.cursor c.ts } none
    | .pqueueEnd => endPass interval age s c .queueEnd
    | .eagain | .eacces =>
      if interval = 0 ∨ dDiff c.cursor s.clssTo < 0 then
        if !c.notDoneSequence then .exit 1
        else if c.sequence = .enoerr then .next s none
        else endPass interval age s c .sequenceEnd
      else endPass interval age s c .lockAhead
    | .edeadlk => endPass interval age s c .deadlock
    | .other => .exit 1

structure Run where
  counted : List (Nat × Timestamp)
  passes : List PassEnd
  state : State
  exit : Option Nat

def run : State → List Iter → Run
  | s,[] => ⟨[],[],s,none⟩
  | s,c :: cs =>
    match step interval age dDiff s c with
    | .exit code => ⟨[],[],s,some code⟩
    | .next s' d => let r := run s' cs; { r with counted := d.toList ++ r.counted }
    | .passEnds s' why => let r := run s' cs; { r with passes := why :: r.passes }

/-- The state `main` enters its loop in: the statistics start at `starttime` with nothing
deleted, and `clss.to` is `age` seconds before `starttime`. -/
def init (tsZero tsEndt starttime : Timestamp) : State :=
  ⟨⟨starttime,tsEndt,tsZero,0,0⟩,⟨starttime.tvSec - age,starttime.tvUsec⟩,0⟩

inductive Reachable (tsZero tsEndt starttime : Timestamp) : State → Prop
  | init : Reachable tsZero tsEndt starttime (init age tsZero tsEndt starttime)
  | next {s s' : State} {c : Iter} {d : Option (Nat × Timestamp)} :
      Reachable tsZero tsEndt starttime s → step interval age dDiff s c = .next s' d →
      Reachable tsZero tsEndt starttime s'
  | passEnds {s s' : State} {c : Iter} {why : PassEnd} :
      Reachable tsZero tsEndt starttime s → step interval age dDiff s c = .passEnds s' why →
      Reachable tsZero tsEndt starttime s'

variable {interval age dDiff}

theorem le_latency (m : ℚ) (cursor ts : Timestamp) : m ≤ latency dDiff m cursor ts := by
  unfold latency; split_ifs with h <;> linarith

theorem endPass_ne_next {s s' : State} {c : Iter} {why : PassEnd} {d : Option (Nat × Timestamp)} :
    endPass interval age s c why ≠ .next s' d := by
  unfold endPass; split_ifs <;> simp

theorem endPass_eq_passEnds {s s' : State} {c : Iter} {why why' : PassEnd}
    (h : endPass interval age s c why = .passEnds s' why') :
    interval ≠ 0 ∧ why' = why ∧ s'.stats = s.stats ∧ s'.maxLatency = 0 := by
  unfold endPass at h
  split_ifs at h with h1 h2 h3
  cases h; exact ⟨h2,rfl,rfl,rfl⟩

/-- Everything one pass can do: exit; count the product `pq_seqdel` deleted; go on past a
product it kept or a lock it stepped over; or end the pass, by the depth heuristic only
when `interval` is not 0 and the cursor is more than `interval + max_latency` past
`clss.to`. -/
theorem step_cases {s : State} {c : Iter} {o : Outcome} (h : step interval age dDiff s c = o) :
    (∃ code, o = .exit code) ∨
    (c.deleted = some (c.nr,c.ts) ∧ o = .next { s with
      stats := s.stats.record dDiff (c.nr,c.ts)
      maxLatency := latency dDiff s.maxLatency c.cursor c.ts } (some (c.nr,c.ts))) ∨
    (c.deleted = none ∧
      (o = .next { s with maxLatency := latency dDiff s.maxLatency c.cursor c.ts } none ∨
        o = .next s none ∨
        ∃ why, o = endPass interval age s c why ∧ (why = .depth → interval ≠ 0 ∧
          dDiff c.cursor s.clssTo > interval + latency dDiff s.maxLatency c.cursor c.ts))) := by
  subst h
  unfold step
  cases c.notDone
  · exact .inl ⟨1,rfl⟩
  cases c.notDoneSeqdel
  · exact .inl ⟨1,rfl⟩
  simp only [Bool.not_true,Bool.false_eq_true,if_false]
  cases hst : c.status
  case enoerr =>
    by_cases h3 : c.nr ≠ 0
    · rw [if_pos h3]; exact .inr (.inl ⟨by simp [Iter.deleted,hst,h3],rfl⟩)
    rw [if_neg h3]
    have hd : c.deleted = none := by simp [Iter.deleted,h3]
    by_cases h4 : interval ≠ 0 ∧
        dDiff c.cursor s.clssTo > interval + latency dDiff s.maxLatency c.cursor c.ts
    · rw [if_pos h4]; exact .inr (.inr ⟨hd,.inr (.inr ⟨.depth,rfl,fun _ => h4⟩)⟩)
    · rw [if_neg h4]; exact .inr (.inr ⟨hd,.inl rfl⟩)
  case other => exact .inl ⟨1,rfl⟩
  all_goals have hd : c.deleted = none := by simp [Iter.deleted,hst]
  case pqueueEnd => exact .inr (.inr ⟨hd,.inr (.inr ⟨.queueEnd,rfl,nofun⟩)⟩)
  case eagain | eacces =>
    dsimp only
    split_ifs
    · exact .inl ⟨1,rfl⟩
    · exact .inr (.inr ⟨hd,.inr (.inl rfl)⟩)
    · exact .inr (.inr ⟨hd,.inr (.inr ⟨.sequenceEnd,rfl,nofun⟩)⟩)
    · exact .inr (.inr ⟨hd,.inr (.inr ⟨.lockAhead,rfl,nofun⟩)⟩)
  case edeadlk => exact .inr (.inr ⟨hd,.inr (.inr ⟨.deadlock,rfl,nofun⟩)⟩)

theorem step_next {s s' : State} {c : Iter} {d : Option (Nat × Timestamp)}
    (h : step interval age dDiff s c = .next s' d) :
    s'.stats = d.toList.foldl (Expirestats.record dDiff) s.stats ∧
      s.maxLatency ≤ s'.maxLatency ∧ d = c.deleted := by
  rcases step_cases h with ⟨_,h⟩ | ⟨hd,h⟩ | ⟨hd,h | h | ⟨_,h,-⟩⟩
  · cases h
  · cases h; exact ⟨rfl,le_latency _ _ _,hd.symm⟩
  · cases h; exact ⟨rfl,le_latency _ _ _,hd.symm⟩
  · cases h; exact ⟨rfl,le_refl _,hd.symm⟩
  · exact absurd h.symm endPass_ne_next

theorem step_passEnds {s s' : State} {c : Iter} {why : PassEnd}
    (h : step interval age dDiff s c = .passEnds s' why) :
    interval ≠ 0 ∧ s'.stats = s.stats ∧ s'.maxLatency = 0 ∧
      (why = .depth → interval + s.maxLatency < dDiff c.cursor s.clssTo) ∧ c.deleted = none := by
  rcases step_cases h with ⟨_,h⟩ | ⟨_,h⟩ | ⟨hd,h | h | ⟨w,h,hw⟩⟩
  any_goals cases h
  obtain ⟨h0,rfl,hst,hl⟩ := endPass_eq_passEnds h.symm
  refine ⟨h0,hst,hl,fun hd => ?_,hd⟩
  have : s.maxLatency ≤ latency dDiff s.maxLatency c.cursor c.ts := le_latency _ _ _
  linarith [(hw hd).2]

/-- What `stats` says after the products `ds` were counted from `st0`: the number of
products and of bytes modulo 2^32 (the fields are `unsigned`), and the earliest and the
latest arrival among `firsthit`, `lasthit` and the products' arrivals, by `val`. -/
def Summarises (val : Timestamp → ℚ) (st0 : Expirestats) (ds : List (Nat × Timestamp))
    (st : Expirestats) : Prop :=
  st.starttime = st0.starttime ∧
  st.nprods.toNat = (st0.nprods.toNat + ds.length) % 2 ^ 32 ∧
  st.nbytes.toNat = (st0.nbytes.toNat + (ds.map Prod.fst).foldr (· + ·) 0) % 2 ^ 32 ∧
  (st.firsthit ∈ st0.firsthit :: ds.map Prod.snd ∧
    ∀ t ∈ st0.firsthit :: ds.map Prod.snd, val st.firsthit ≤ val t) ∧
  (st.lasthit ∈ st0.lasthit :: ds.map Prod.snd ∧
    ∀ t ∈ st0.lasthit :: ds.map Prod.snd, val t ≤ val st.lasthit)

section
variable (val : Timestamp → ℚ) (hd : ∀ a b, dDiff a b = val a - val b)
include hd

theorem record_firsthit (st : Expirestats) (d : Nat × Timestamp) :
    ((st.record dDiff d).firsthit = st.firsthit ∨ (st.record dDiff d).firsthit = d.2) ∧
      val (st.record dDiff d).firsthit ≤ val st.firsthit ∧
      val (st.record dDiff d).firsthit ≤ val d.2 := by
  simp only [Expirestats.record,hd]
  split_ifs with h
  · exact ⟨.inr rfl,by linarith,le_refl _⟩
  · exact ⟨.inl rfl,le_refl _,by linarith⟩

theorem record_lasthit (st : Expirestats) (d : Nat × Timestamp) :
    ((st.record dDiff d).lasthit = st.lasthit ∨ (st.record dDiff d).lasthit = d.2) ∧
      val st.lasthit ≤ val (st.record dDiff d).lasthit ∧
      val d.2 ≤ val (st.record dDiff d).lasthit := by
  simp only [Expirestats.record,hd]
  split_ifs with h
  · exact ⟨.inr rfl,by linarith,le_refl _⟩
  · exact ⟨.inl rfl,le_refl _,by linarith⟩

theorem foldl_record_firsthit (st : Expirestats) (ds : List (Nat × Timestamp)) :
    (ds.foldl (Expirestats.record dDiff) st).firsthit ∈ st.firsthit :: ds.map Prod.snd ∧
      ∀ t ∈ st.firsthit :: ds.map Prod.snd,
        val (ds.foldl (Expirestats.record dDiff) st).firsthit ≤ val t := by
  induction ds generalizing st with
  | nil => exact ⟨List.mem_singleton_self _,by simp⟩
  | cons d ds ih =>
    obtain ⟨hmem,hle⟩ := ih (st.record dDiff d)
    obtain ⟨hf,hf1,hf2⟩ := record_firsthit val hd st d
    simp only [List.foldl_cons,List.map_cons,List.forall_mem_cons] at hmem hle ⊢
    refine ⟨?_,hle.1.trans hf1,hle.1.trans hf2,hle.2⟩
    rcases List.mem_cons.mp hmem with h | h
    · rcases hf with h' | h' <;> rw [h,h'] <;> simp
    · exact List.mem_cons_of_mem _ (List.mem_cons_of_mem _ h)

theorem foldl_record_lasthit (st : Expirestats) (ds : List (Nat × Timestamp)) :
    (ds.foldl (Expirestats.record dDiff) st).lasthit ∈ st.lasthit :: ds.map Prod.snd ∧
      ∀ t ∈ st.lasthit :: ds.map Prod.snd,
        val t ≤ val (ds.foldl (Expirestats.record dDiff) st).lasthit := by
  induction ds generalizing st with
  | nil => exact ⟨List.mem_singleton_self _,by simp⟩
  | cons d ds ih =>
    obtain ⟨hmem,hle⟩ := ih (st.record dDiff d)
    obtain ⟨hl,hl1,hl2⟩ := record_lasthit val hd st d
    simp only [List.foldl_cons,List.map_cons,List.forall_mem_cons] at hmem hle ⊢
    refine ⟨?_,hl1.trans hle.1,hl2.trans hle.1,hle.2⟩
    rcases List.mem_cons.mp hmem with h | h
    · rcases hl with h' | h' <;> rw [h,h'] <;> simp
    · exact List.mem_cons_of_mem _ (List.mem_cons_of_mem _ h)

end

theorem foldl_record_counts (st : Expirestats) (ds : List (Nat × Timestamp)) :
    (ds.foldl (Expirestats.record dDiff) st).starttime = st.starttime ∧
      (ds.foldl (Expirestats.record dDiff) st).nprods.toNat =
        (st.nprods.toNat + ds.length) % 2 ^ 32 ∧
      (ds.foldl (Expirestats.record dDiff) st).nbytes.toNat =
        (st.nbytes.toNat + (ds.map Prod.fst).foldr (· + ·) 0) % 2 ^ 32 := by
  induction ds generalizing st with
  | nil => exact ⟨rfl,(Nat.mod_eq_of_lt st.nprods.toNat_lt_size).symm,
      (Nat.mod_eq_of_lt st.nbytes.toNat_lt_size).symm⟩
  | cons d ds ih =>
    obtain ⟨h1,h2,h3⟩ := ih (st.record dDiff d)
    have hp : (st.record dDiff d).nprods.toNat = (st.nprods.toNat + 1) % 2 ^ 32 := rfl
    have hb : (st.record dDiff d).nbytes.toNat = (st.nbytes.toNat + d.1 % 2 ^ 32) % 2 ^ 32 := rfl
    refine ⟨h1,?_,?_⟩
    · rw [List.foldl_cons,h2,hp,List.length_cons]; omega
    · rw [List.foldl_cons,h3,hb,List.map_cons,List.foldr_cons]; omega

/-- Over a run, the statistics take in exactly the products the run counted, across every
pass: nothing resets them. -/
theorem run_stats_eq (s : State) (cs : List Iter) :
    (run interval age dDiff s cs).state.stats =
      (run interval age dDiff s cs).counted.foldl (Expirestats.record dDiff) s.stats := by
  induction cs generalizing s with
  | nil => rfl
  | cons c cs ih =>
    cases ho : step interval age dDiff s c with
    | exit code => simp only [run,ho]; rfl
    | next s' d => simp only [run,ho,List.foldl_append,← (step_next ho).1,ih]
    | passEnds s' why => simp only [run,ho,← (step_passEnds ho).2.1,ih]

/-- A run splits into the passes before the one that exits, or all of them, and the rest;
it counts, in order, what `pq_seqdel` deleted on the passes before. -/
theorem run_prefix (s : State) (cs : List Iter) :
    ∃ pre rest, cs = pre ++ rest ∧ (run interval age dDiff s pre).exit = none ∧
      (rest = [] ∨ ∃ c rest' code, rest = c :: rest' ∧
        step interval age dDiff (run interval age dDiff s pre).state c = .exit code ∧
        (run interval age dDiff s cs).exit = some code) ∧
      (run interval age dDiff s cs).counted = pre.filterMap Iter.deleted := by
  induction cs generalizing s with
  | nil => exact ⟨[],[],rfl,rfl,.inl rfl,rfl⟩
  | cons c cs ih =>
    cases ho : step interval age dDiff s c with
    | exit code =>
      exact ⟨[],c :: cs,rfl,rfl,.inr ⟨c,cs,code,rfl,ho,by simp [run,ho]⟩,by simp [run,ho]⟩
    | next s' d =>
      obtain ⟨pre,rest,rfl,hpre,hrest,hc⟩ := ih s'
      refine ⟨c :: pre,rest,rfl,by simpa [run,ho] using hpre,by simpa [run,ho] using hrest,?_⟩
      rw [List.filterMap_cons,← (step_next ho).2.2]
      cases d <;> simp [run,ho,hc]
    | passEnds s' why =>
      obtain ⟨pre,rest,rfl,hpre,hrest,hc⟩ := ih s'
      refine ⟨c :: pre,rest,rfl,by simpa [run,ho] using hpre,by simpa [run,ho] using hrest,?_⟩
      simp [run,ho,hc,(step_passEnds ho).2.2.2.2]

/-- Whatever the queue does, `stats` counts every product that `pq_seqdel` deleted, with
ENOERR and `nr` not 0, on the passes before the one that exits, modulo 2^32, and holds the
earliest and the latest of their arrivals, over every pass of every run. -/
theorem run_stats (val : Timestamp → ℚ) (hd : ∀ a b, dDiff a b = val a - val b) (s : State)
    (cs : List Iter) :
    ∃ pre rest, cs = pre ++ rest ∧ (run interval age dDiff s pre).exit = none ∧
      (rest = [] ∨ ∃ c rest' code, rest = c :: rest' ∧
        step interval age dDiff (run interval age dDiff s pre).state c = .exit code ∧
        (run interval age dDiff s cs).exit = some code) ∧
      Summarises val s.stats (pre.filterMap Iter.deleted)
        (run interval age dDiff s cs).state.stats := by
  obtain ⟨pre,rest,hcs,hpre,hrest,hc⟩ := run_prefix s cs
  refine ⟨pre,rest,hcs,hpre,hrest,?_⟩
  rw [run_stats_eq,hc]
  exact ⟨(foldl_record_counts _ _).1,(foldl_record_counts _ _).2.1,(foldl_record_counts _ _).2.2,
    foldl_record_firsthit val hd _ _,foldl_record_lasthit val hd _ _⟩

/-- One product of 100 bytes deleted on the first pass, with times read in whole seconds:
`stats` counts it. -/
theorem run_stats_one_product :
    let D : Timestamp → Timestamp → ℚ := fun a b => a.tvSec - b.tvSec
    let s := init 3600 ⟨0,0⟩ ⟨2147483647,999999⟩ ⟨7200,0⟩
    let c : Iter := ⟨true,.enoerr,100,⟨1000,0⟩,true,⟨1000,5⟩,.enoerr,true,true,true,⟨0,0⟩⟩
    (∀ a b, D a b = (a.tvSec : ℚ) - b.tvSec) ∧
      (run 300 3600 D s [c]).state.stats.nprods.toNat = 1 ∧
      (run 300 3600 D s [c]).state.stats.nbytes.toNat = 100 := by
  intro D s c
  obtain ⟨pre,rest,hcs,hpre,hrest,-,hn,hb,-⟩ :=
    @run_stats 300 3600 D (fun t => (t.tvSec : ℚ)) (fun _ _ => rfl) s [c]
  obtain ⟨rfl,rfl⟩ : pre = [c] ∧ rest = [] := by
    rcases hrest with rfl | ⟨_,_,_,_,_,hr⟩
    · simpa using hcs.symm
    · have he : (run 300 3600 D s [c]).exit = none := by decide
      rw [he] at hr; cases hr
  exact ⟨fun _ _ => rfl,hn.trans (by decide),hb.trans (by decide)⟩

theorem reachable_maxLatency_nonneg {tsZero tsEndt starttime : Timestamp} {s : State}
    (hs : Reachable interval age dDiff tsZero tsEndt starttime s) : 0 ≤ s.maxLatency := by
  induction hs with
  | init => exact le_refl _
  | next _ h ih => exact ih.trans (step_next h).2.1
  | passEnds _ h _ => exact (step_passEnds h).2.2.1.ge

/-- From every state the loop reaches, its depth heuristic ends a pass only at a product
more than `interval` seconds past `clss.to`: `max_latency` is never below 0. -/
theorem depth_break_past_interval {tsZero tsEndt starttime : Timestamp} {s s' : State}
    {c : Iter} (hs : Reachable interval age dDiff tsZero tsEndt starttime s)
    (h : step interval age dDiff s c = .passEnds s' .depth) :
    (interval : ℚ) < dDiff c.cursor s.clssTo := by
  have h1 := (step_passEnds h).2.2.2.1 rfl
  linarith [reachable_maxLatency_nonneg hs]

/-- On the first pass, a kept product that arrived 10 s before the cursor, with the cursor
1400 s past `clss.to`, ends the pass by the heuristic. -/
theorem depth_break_first_pass :
    Reachable 300 3600 (fun a b => (a.tvSec - b.tvSec : ℚ)) ⟨0,0⟩ ⟨2147483647,999999⟩ ⟨7200,0⟩
      (init 3600 ⟨0,0⟩ ⟨2147483647,999999⟩ ⟨7200,0⟩) ∧
    step 300 3600 (fun a b => (a.tvSec - b.tvSec : ℚ)) (init 3600 ⟨0,0⟩ ⟨2147483647,999999⟩ ⟨7200,0⟩)
        ⟨true,.enoerr,0,⟨4990,0⟩,true,⟨5000,0⟩,.enoerr,true,true,true,⟨0,0⟩⟩ =
      .passEnds ⟨(init 3600 ⟨0,0⟩ ⟨2147483647,999999⟩ ⟨7200,0⟩).stats,⟨-3600,0⟩,0⟩ .depth ∧
    ((300 : Int) : ℚ) < (fun a b : Timestamp => (a.tvSec - b.tvSec : ℚ)) ⟨5000,0⟩
      (init 3600 ⟨0,0⟩ ⟨2147483647,999999⟩ ⟨7200,0⟩).clssTo := by
  have h : step 300 3600 (fun a b => (a.tvSec - b.tvSec : ℚ))
      (init 3600 ⟨0,0⟩ ⟨2147483647,999999⟩ ⟨7200,0⟩)
        ⟨true,.enoerr,0,⟨4990,0⟩,true,⟨5000,0⟩,.enoerr,true,true,true,⟨0,0⟩⟩ =
      .passEnds ⟨(init 3600 ⟨0,0⟩ ⟨2147483647,999999⟩ ⟨7200,0⟩).stats,⟨-3600,0⟩,0⟩ .depth := by
    norm_num [step,endPass,latency,init]
  exact ⟨.init,h,depth_break_past_interval .init h⟩

end

end Pqexpire
end Ldm7
