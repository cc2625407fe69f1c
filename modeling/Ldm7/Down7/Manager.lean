import Ldm7.Basic

/-! The downstream LDM-7 manager (`down7_manager.c`): a stack of elements, one for each
downstream LDM-7 to run, that `d7mgr_add` pushes and `d7mgr_startAll` starts as child
processes. Whether each allocation succeeds and what each `ldmfork` returns to the calling
process are inputs. -/
namespace Ldm7
namespace Manager

/-- `Elt` without its link: the stack is the list from `top`. -/
structure Elt where
  ul7 : ServiceAddr
  iface : String
  ft : Feedtype
  pid : Int
  deriving DecidableEq

/-- `elt_new`, with whether `log_malloc`, `sa_clone` and `strdup` succeed. -/
def eltNew (ft : Feedtype) (ul7 : ServiceAddr) (iface : String)
    (mallocOk cloneOk strdupOk : Bool) : Option Elt :=
  if mallocOk ∧ cloneOk ∧ strdupOk then some ⟨ul7,iface,ft,-1⟩ else none

def d7mgrAdd (top : List Elt) (ft : Feedtype) (ul7 : ServiceAddr) (iface : String)
    (mallocOk cloneOk strdupOk : Bool) : Ldm7Status × List Elt :=
  match eltNew ft ul7 iface mallocOk cloneOk strdupOk with
  | none => (.system,top)
  | some elt => (.ok,elt :: top)

structure Add where
  ft : Feedtype
  ul7 : ServiceAddr
  iface : String
  mallocOk : Bool
  cloneOk : Bool
  strdupOk : Bool

def addAll (adds : List Add) : List Elt :=
  adds.foldl (fun top a => (d7mgrAdd top a.ft a.ul7 a.iface a.mallocOk a.cloneOk a.strdupOk).2) []

/-- `elt_start` in the calling process, given what `ldmfork` returns there. In the child
`ldmfork` returns 0 and `elt_start` runs `executeDown7`, then exits or aborts: it does not
return, hence `none`. -/
def eltStart (pid : Int) (elt : Elt) : Option (Ldm7Status × Elt) :=
  if pid = -1 then some (.system,elt)
  else if pid = 0 then none
  else some (.ok,{ elt with pid := pid })

/-- `elt_stop`: the element afterwards, and the pid it sent `SIGTERM`, if any. -/
def eltStop (elt : Elt) : Elt × Option Int :=
  if 0 < elt.pid then ({ elt with pid := -1 },some elt.pid) else (elt,none)

/-- The loop of `d7mgr_startAll` from `elt` on: `started` are the elements before it and
`fork k` is what the `k`-th `ldmfork` of the call returns. It gives the status, the
elements afterwards and the pids sent `SIGTERM`. -/
def startLoop (fork : Nat → Int) (started : List Elt) :
    List Elt → Option (Ldm7Status × List Elt × List Int)
  | [] => some (.ok,started,[])
  | elt :: rest =>
    match eltStart (fork started.length) elt with
    | none => none
    | some (status,elt') =>
      if status ≠ .ok then
        let stops := started.map eltStop
        some (status,stops.map Prod.fst ++ elt' :: rest,stops.filterMap Prod.snd)
      else startLoop fork (started ++ [elt']) rest

def d7mgrStartAll (top : List Elt) (fork : Nat → Int) : Option (Ldm7Status × List Elt × List Int) :=
  startLoop fork [] top

theorem d7mgrAdd_pid {top : List Elt} (h : ∀ e ∈ top, e.pid = -1) (ft : Feedtype)
    (ul7 : ServiceAddr) (iface : String) (m c s : Bool) :
    ∀ e ∈ (d7mgrAdd top ft ul7 iface m c s).2, e.pid = -1 := by
  unfold d7mgrAdd eltNew
  split_ifs <;> simpa using h

theorem addAll_pid (adds : List Add) : ∀ e ∈ addAll adds, e.pid = -1 := by
  suffices ∀ top : List Elt, (∀ e ∈ top, e.pid = -1) → ∀ e ∈ adds.foldl
      (fun top a => (d7mgrAdd top a.ft a.ul7 a.iface a.mallocOk a.cloneOk a.strdupOk).2) top,
      e.pid = -1 from this [] (by simp)
  induction adds with
  | nil => exact fun _ h => h
  | cons a adds ih => exact fun top h => ih _ (d7mgrAdd_pid h a.ft a.ul7 a.iface _ _ _)

/-- The elements started so far: the `k`-th has the pid of the `k`-th fork. -/
def started (fork : Nat → Int) (pre : List Elt) : List Elt :=
  pre.mapIdx fun k e => { e with pid := fork k }

@[simp] theorem length_started (fork : Nat → Int) (pre : List Elt) :
    (started fork pre).length = pre.length := List.length_mapIdx

section
variable (fork : Nat → Int)

theorem map_eltStop_fst (pre : List Elt) (hpre : ∀ e ∈ pre, e.pid = -1)
    (hpos : ∀ k < pre.length, 0 < fork k) :
    ((started fork pre).map eltStop).map Prod.fst = pre := by
  induction pre generalizing fork with
  | nil => rfl
  | cons e pre ih =>
    have he : e.pid = -1 := hpre e (.head _)
    simp only [started,List.mapIdx_cons,List.map_cons,eltStop,if_pos (hpos 0 (by simp))]
    rw [show ({ e with pid := -1 } : Elt) = e from by cases e; simp_all]
    exact congrArg _ (ih _ (fun x hx => hpre x (.tail _ hx))
      (fun k hk => hpos (k + 1) (by simpa using hk)))

theorem filterMap_eltStop_snd (pre : List Elt) (hpos : ∀ k < pre.length, 0 < fork k) :
    ((started fork pre).map eltStop).filterMap Prod.snd = (List.range pre.length).map fork := by
  induction pre generalizing fork with
  | nil => rfl
  | cons e pre ih =>
    simp only [started,List.mapIdx_cons,List.map_cons,eltStop,if_pos (hpos 0 (by simp)),
      List.filterMap_cons_some,List.length_cons,List.range_succ_eq_map,List.map_map]
    exact congrArg _ (ih _ (fun k hk => hpos (k + 1) (by simpa using hk)))

/-- The loop from any point: it either starts every remaining element, or stops at the
first fork that fails, stops every child of this call and leaves every pid at -1. -/
theorem startLoop_spec (hfork : ∀ k, fork k = -1 ∨ 0 < fork k) (pre rest : List Elt)
    (hpre : ∀ e ∈ pre, e.pid = -1) (hrest : ∀ e ∈ rest, e.pid = -1)
    (hpos : ∀ k < pre.length, 0 < fork k) :
    ∃ status elts kills, startLoop fork (started fork pre) rest = some (status,elts,kills) ∧
      (status = .ok ∧ elts = started fork (pre ++ rest) ∧ kills = [] ∨
       status = .system ∧ elts = pre ++ rest ∧ ∃ n < (pre ++ rest).length, fork n = -1 ∧
         (∀ k < n, 0 < fork k) ∧ kills = (List.range n).map fork) := by
  induction rest generalizing pre with
  | nil => exact ⟨_,_,_,rfl,.inl ⟨rfl,by simp,rfl⟩⟩
  | cons e rest ih =>
    simp only [startLoop,length_started,eltStart]
    rcases hfork pre.length with hf | hf
    · simp only [hf,if_true,ne_eq,reduceCtorEq,not_false_eq_true]
      refine ⟨_,_,_,rfl,.inr ⟨rfl,by rw [map_eltStop_fst fork pre hpre hpos],pre.length,
        by simp,hf,hpos,filterMap_eltStop_snd fork pre hpos⟩⟩
    · simp only [show fork pre.length ≠ -1 by omega,show fork pre.length ≠ 0 by omega,
        if_false,ne_eq,not_true_eq_false]
      have hs : started fork pre ++ [{ e with pid := fork pre.length }] =
          started fork (pre ++ [e]) := by simp [started]
      rw [hs]
      have hpre' : ∀ x ∈ pre ++ [e], x.pid = -1 := by
        simpa [or_imp,forall_and] using ⟨hpre,hrest e (.head _)⟩
      have hpos' : ∀ k < (pre ++ [e]).length, 0 < fork k := fun k hk => by
        rcases Nat.lt_or_ge k pre.length with h | h
        · exact hpos k h
        · rw [show k = pre.length by simp at hk; omega]; exact hf
      simpa using ih (pre ++ [e]) hpre' (fun x hx => hrest x (.tail _ hx)) hpos'

end

/-- For every stack that `d7mgr_add` calls build and every outcome of the forks in the
calling process (-1, or a child's positive pid), `d7mgr_startAll` returns 0 with the pid
of the child forked for each element, or returns `LDM7_SYSTEM` after sending `SIGTERM` to
every child it forked in the call, leaving every element as it was, with pid -1. -/
theorem d7mgrStartAll_all_or_none (adds : List Add) (fork : Nat → Int)
    (hfork : ∀ k, fork k = -1 ∨ 0 < fork k) :
    ∃ status elts kills, d7mgrStartAll (addAll adds) fork = some (status,elts,kills) ∧
      (status = .ok ∧ elts = (addAll adds).mapIdx (fun k e => { e with pid := fork k }) ∧
          kills = [] ∨
        status = .system ∧ elts = addAll adds ∧ (∀ e ∈ elts, e.pid = -1) ∧
          ∃ n < (addAll adds).length, fork n = -1 ∧ (∀ k < n, 0 < fork k) ∧
            kills = (List.range n).map fork) := by
  obtain ⟨status,elts,kills,h,hr⟩ :=
    startLoop_spec fork hfork [] (addAll adds) (by simp) (addAll_pid adds) (by simp)
  refine ⟨status,elts,kills,h,?_⟩
  rcases hr with ⟨h1,h2,h3⟩ | ⟨h1,h2,h3⟩
  · exact .inl ⟨h1,h2,h3⟩
  · exact .inr ⟨h1,by simpa using h2,by simpa [h2] using addAll_pid adds,by simpa using h3⟩

theorem d7mgrStartAll_all_or_none_one :
    (∀ _ : Nat, (4242 : Int) = -1 ∨ 0 < (4242 : Int)) ∧
      ∃ status elts kills, d7mgrStartAll (addAll [⟨7,⟨"up",388⟩,"eth0",true,true,true⟩])
          (fun _ => 4242) = some (status,elts,kills) ∧
        (status = .ok ∧ elts = (addAll [⟨7,⟨"up",388⟩,"eth0",true,true,true⟩]).mapIdx
            (fun _ e => { e with pid := 4242 }) ∧ kills = [] ∨
          status = .system ∧ elts = addAll [⟨7,⟨"up",388⟩,"eth0",true,true,true⟩] ∧
            (∀ e ∈ elts, e.pid = -1) ∧
            ∃ n < (addAll [⟨7,⟨"up",388⟩,"eth0",true,true,true⟩]).length, (4242 : Int) = -1 ∧
              (∀ k < n, (0 : Int) < 4242) ∧ kills = (List.range n).map fun _ => 4242) :=
  ⟨fun _ => .inr (by decide),
    d7mgrStartAll_all_or_none [⟨7,⟨"up",388⟩,"eth0",true,true,true⟩] _ fun _ => .inr (by decide)⟩

end Manager
end Ldm7
