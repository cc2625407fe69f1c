import Mathlib.Data.List.Basic

/-! Reading GEMPAK's GRIB2 tables (`ctbg2read.c`, `ctbg2rdlvl.c`, `ctbg2rdcntr.c`): open the
table, count its entries, allocate them zeroed and decode one line into each. What the
file functions, `calloc` and `sscanf` return is input; an entry never written is `none`. -/
namespace Ldm7
namespace Gempak

def gNormal : Int := 0

def gNmemry : Int := -52

/-- What a table's `info` points to: `NULL`, the entries, or memory `free` released. -/
inductive Info (α : Type)
  | null
  | live (entries : List (Option α))
  | freed

structure Table (α : Type) where
  info : Info α
  nlines : Nat

section
variable {α : Type} (decode : String → Option α)

/-- The loop `while (n < nr)` of the readers from entry `n` with `*iret`, `lines` those
that `cfl_trln` still returns: `n`, the entries and `*iret` at the end, and whether the
loop broke off because `cfl_trln` failed. -/
def readLines (nr : Nat) : Nat → List (Option α) → Int → List String →
    Nat × List (Option α) × Int × Bool
  | n,info,iret,[] => (n,info,iret,decide (n < nr))
  | n,info,iret,l :: ls =>
    if n < nr then
      match decode l with
      | none => readLines nr (n + 1) info (-2) ls
      | some e => readLines nr (n + 1) (info.set n (some e)) iret ls
    else (n,info,iret,false)

theorem readLines_cons_of_lt (nr n : Nat) (info : List (Option α)) (iret : Int) (l : String)
    (ls : List String) (h : n < nr) :
    readLines decode nr n info iret (l :: ls) =
      readLines decode nr (n + 1) ((decode l).elim info fun e => info.set n (some e))
        (if (decode l).isSome then iret else -2) ls := by
  rw [readLines,if_pos h]
  cases decode l <;> rfl

theorem readLines_eq (nr : Nat) (pre rest : List String) (iret : Int) (h : pre.length ≤ nr) :
    readLines decode nr pre.length (pre.map decode ++ List.replicate (nr - pre.length) none)
        iret rest =
      (min nr (pre.length + rest.length),
       ((pre ++ rest).take nr).map decode ++
         List.replicate (nr - (pre.length + rest.length)) none,
       if (rest.take (nr - pre.length)).all fun l => (decode l).isSome then iret else -2,
       decide (pre.length + rest.length < nr)) := by
  induction rest generalizing pre iret with
  | nil => simp [readLines,List.take_of_length_le h,Nat.min_eq_right h]
  | cons l ls ih =>
    rcases Nat.lt_or_ge pre.length nr with hlt | hge
    · have hk : nr - pre.length = nr - (pre.length + 1) + 1 := by omega
      -- the slot of `l` holds its decoding afterwards, whether or not it decoded
      have hinfo : (decode l).elim (pre.map decode ++ List.replicate (nr - pre.length) none)
          (fun e => (pre.map decode ++ List.replicate (nr - pre.length) none).set pre.length
            (some e)) =
          (pre ++ [l]).map decode ++ List.replicate (nr - (pre.length + 1)) none := by
        rw [hk,List.replicate_succ]
        cases hd : decode l <;> simp [hd,List.set_append_right]
      rw [readLines_cons_of_lt decode nr _ _ _ l ls hlt,hinfo]
      have ih' := ih (pre ++ [l]) (if (decode l).isSome then iret else -2) (by simp; omega)
      simp only [List.length_append,List.length_singleton] at ih'
      rw [ih',hk]
      cases hd : decode l <;> simp [hd,Nat.add_assoc,Nat.add_comm 1]
    · have he : pre.length = nr := by omega
      subst he
      simp [readLines,List.take_append_of_le_length]

theorem readLines_start (nr : Nat) (lines : List String) :
    readLines decode nr 0 (List.replicate nr none) gNormal lines =
      (min nr lines.length,(lines.take nr).map decode ++ List.replicate (nr - lines.length) none,
       if (lines.take nr).all fun l => (decode l).isSome then gNormal else -2,
       decide (lines.length < nr)) := by
  simpa using readLines_eq decode nr [] lines gNormal (Nat.zero_le _)

/-- `info` holds in live memory the decoding of each of the first `nlines` lines, and
each of these lines was decoded. -/
def Complete (lines : List String) (t : Table α) : Prop :=
  t.nlines ≤ lines.length ∧ (∀ l ∈ lines.take t.nlines, (decode l).isSome) ∧
    ∃ entries, t.info = .live entries ∧ entries.take t.nlines = (lines.take t.nlines).map decode

end

structure G2level where
  id1 : Int
  id2 : Int
  name : String
  unit : String
  «abbrev» : String
  scale : Int

structure G2wmocenter where
  id : Int
  name : String
  «abbrev» : String

structure G2Vinfo where
  discpln : Int
  categry : Int
  paramtr : Int
  pdtnmbr : Int
  name : String
  units : String
  gemname : String
  scale : Int
  missing : Float
  hzremap : Int
  direction : Int

/-- `ctb_g2rdlvl`: `opened` whether `cfl_tbop` succeeds, `tbnr` what `cfl_tbnr` gives
(`none` an error), `callocOk` whether `calloc` succeeds; `*lvltbl` and `*iret`. -/
def ctbG2rdlvl (decode : String → Option G2level) (lvltbl : Table G2level) (opened : Bool)
    (tbnr : Option Nat) (callocOk : Bool) (lines : List String) : Table G2level × Int :=
  if !opened then (lvltbl,-1)
  else match tbnr with
    | none | some 0 => (lvltbl,-2)
    | some nr =>
      if !callocOk then ({ lvltbl with info := .null },gNmemry)
      else
        let r := readLines decode nr 0 (List.replicate nr none) gNormal lines
        (⟨if r.2.2.2 then .freed else .live r.2.1,nr⟩,r.2.2.1)

/-- `ctb_g2rdcntr`, which does not check `calloc`. -/
def ctbG2rdcntr (decode : String → Option G2wmocenter) (cntrtbl : Table G2wmocenter)
    (opened : Bool) (tbnr : Option Nat) (lines : List String) : Table G2wmocenter × Int :=
  if !opened then (cntrtbl,-1)
  else match tbnr with
    | none | some 0 => (cntrtbl,-2)
    | some nr =>
      let r := readLines decode nr 0 (List.replicate nr none) gNormal lines
      (⟨.live r.2.1,nr⟩,r.2.2.1)

/-- The globals `Gr2Tbl` and `Gr2Readin` of `ctbg2read.c`. -/
structure G2Vars where
  gr2Tbl : Table G2Vinfo
  gr2Readin : Bool

def G2Vars.init : G2Vars := ⟨⟨.null,0⟩,false⟩

def ncoln : Nat := 110

/-- The decoding of a line by `ctb_g2read`: with `blen` from `cst_lstr`, a line longer
than `NCOLN` is read with the eleven-field format, another with the nine-field one, and
`hzremap` and `direction` are then 0. -/
def g2Decode (cstLstr : String → Nat) (scan11 scan9 : String → Option G2Vinfo) (l : String) :
    Option G2Vinfo :=
  if cstLstr l > ncoln then scan11 l
  else (scan9 l).map fun e => { e with hzremap := 0, direction := 0 }

/-- `ctb_g2read`, which does not check `calloc`: the globals afterwards and `*iret`. -/
def ctbG2read (cstLstr : String → Nat) (scan11 scan9 : String → Option G2Vinfo) (s : G2Vars)
    (opened : Bool) (tbnr : Option Nat) (lines : List String) : G2Vars × Int :=
  if s.gr2Readin then (s,gNormal)
  else if !opened then (s,-1)
  else match tbnr with
    | none | some 0 => (s,-2)
    | some nr =>
      let r := readLines (g2Decode cstLstr scan11 scan9) nr 0 (List.replicate nr none) gNormal lines
      (⟨⟨.live r.2.1,r.1⟩,true⟩,r.2.2.1)

section
variable {α : Type} (decode : String → Option α)

/-- The loop reports `G_NORMAL` only when every line it read was decoded, and then its
entries are complete for the lines read. -/
theorem complete_of_readLines (nr : Nat) (lines : List String)
    (h : (readLines decode nr 0 (List.replicate nr none) gNormal lines).2.2.1 = gNormal) :
    Complete decode lines ⟨.live (readLines decode nr 0 (List.replicate nr none) gNormal lines).2.1,
      (readLines decode nr 0 (List.replicate nr none) gNormal lines).1⟩ := by
  rw [readLines_start] at h ⊢
  dsimp only at h ⊢
  have hall : ∀ l ∈ lines.take nr, (decode l).isSome := by
    split_ifs at h with ha
    · simpa using ha
    · simp [gNormal] at h
  have ht : lines.take (min nr lines.length) = lines.take nr := List.take_eq_take.mpr (by omega)
  refine ⟨Nat.min_le_right _ _,by rwa [ht],_,rfl,?_⟩
  rw [ht,List.take_left' (by simp)]

theorem readLines_fst_of_not_failed (nr : Nat) (lines : List String)
    (h : (readLines decode nr 0 (List.replicate nr none) gNormal lines).2.2.2 = false) :
    (readLines decode nr 0 (List.replicate nr none) gNormal lines).1 = nr := by
  rw [readLines_start] at h ⊢
  simp only [decide_eq_false_iff_not,Nat.not_lt] at h
  exact Nat.min_eq_left h

end

theorem ctbG2rdlvl_normal (decode : String → Option G2level) (lvltbl : Table G2level)
    (opened : Bool) (tbnr : Option Nat) (callocOk : Bool) (lines : List String)
    (h : (ctbG2rdlvl decode lvltbl opened tbnr callocOk lines).2 = gNormal) :
    (ctbG2rdlvl decode lvltbl opened tbnr callocOk lines).1.info = .freed ∨
      Complete decode lines (ctbG2rdlvl decode lvltbl opened tbnr callocOk lines).1 := by
  unfold ctbG2rdlvl at h ⊢
  rcases opened,tbnr with ⟨_ | _,_ | _ | nr⟩ <;> try simp [gNormal] at h
  cases callocOk
  · simp [gNormal,gNmemry] at h
  · simp only [Bool.not_true,Bool.false_eq_true,if_false] at h ⊢
    cases hf : (readLines decode (nr + 1) 0 (List.replicate (nr + 1) none) gNormal lines).2.2.2
    · right
      simpa [readLines_fst_of_not_failed decode _ lines hf] using complete_of_readLines decode _ lines h
    · left; simp

theorem ctbG2rdcntr_normal (decode : String → Option G2wmocenter) (cntrtbl : Table G2wmocenter)
    (opened : Bool) (tbnr : Option Nat) (lines : List String)
    (h : (ctbG2rdcntr decode cntrtbl opened tbnr lines).2 = gNormal) :
    lines.length < (ctbG2rdcntr decode cntrtbl opened tbnr lines).1.nlines ∨
      Complete decode lines (ctbG2rdcntr decode cntrtbl opened tbnr lines).1 := by
  unfold ctbG2rdcntr at h ⊢
  rcases opened,tbnr with ⟨_ | _,_ | _ | nr⟩ <;> try simp [gNormal] at h
  simp only [Bool.not_true,Bool.false_eq_true,if_false] at h ⊢
  cases hf : (readLines decode (nr + 1) 0 (List.replicate (nr + 1) none) gNormal lines).2.2.2
  · right
    simpa [readLines_fst_of_not_failed decode _ lines hf] using complete_of_readLines decode _ lines h
  · left
    rw [readLines_start] at hf
    simpa using hf

theorem ctbG2read_first_normal (cstLstr : String → Nat) (scan11 scan9 : String → Option G2Vinfo)
    (opened : Bool) (tbnr : Option Nat) (lines : List String)
    (h : (ctbG2read cstLstr scan11 scan9 G2Vars.init opened tbnr lines).2 = gNormal) :
    Complete (g2Decode cstLstr scan11 scan9) lines
      (ctbG2read cstLstr scan11 scan9 G2Vars.init opened tbnr lines).1.gr2Tbl := by
  unfold ctbG2read at h ⊢
  rcases opened,tbnr with ⟨_ | _,_ | _ | nr⟩ <;> try simp [gNormal,G2Vars.init] at h
  simp only [G2Vars.init,Bool.not_true,Bool.false_eq_true,if_false] at h ⊢
  exact complete_of_readLines _ _ lines h

/-- When a reader reports `G_NORMAL`: the table of `ctb_g2rdlvl` is complete or its `info`
was freed, the table of `ctb_g2rdcntr` is complete or has fewer lines than `nlines`, and
the table of a first `ctb_g2read` is complete. -/
theorem readers_normal_complete (decodeLvl : String → Option G2level)
    (decodeCntr : String → Option G2wmocenter) (cstLstr : String → Nat)
    (scan11 scan9 : String → Option G2Vinfo) (lvltbl : Table G2level)
    (cntrtbl : Table G2wmocenter) (opened : Bool) (tbnr : Option Nat) (callocOk : Bool)
    (lines : List String) :
    ((ctbG2rdlvl decodeLvl lvltbl opened tbnr callocOk lines).2 = gNormal →
      (ctbG2rdlvl decodeLvl lvltbl opened tbnr callocOk lines).1.info = .freed ∨
        Complete decodeLvl lines (ctbG2rdlvl decodeLvl lvltbl opened tbnr callocOk lines).1) ∧
    ((ctbG2rdcntr decodeCntr cntrtbl opened tbnr lines).2 = gNormal →
      lines.length < (ctbG2rdcntr decodeCntr cntrtbl opened tbnr lines).1.nlines ∨
        Complete decodeCntr lines (ctbG2rdcntr decodeCntr cntrtbl opened tbnr lines).1) ∧
    ((ctbG2read cstLstr scan11 scan9 G2Vars.init opened tbnr lines).2 = gNormal →
      Complete (g2Decode cstLstr scan11 scan9) lines
        (ctbG2read cstLstr scan11 scan9 G2Vars.init opened tbnr lines).1.gr2Tbl) :=
  ⟨ctbG2rdlvl_normal decodeLvl lvltbl opened tbnr callocOk lines,
    ctbG2rdcntr_normal decodeCntr cntrtbl opened tbnr lines,
    ctbG2read_first_normal cstLstr scan11 scan9 opened tbnr lines⟩

/-- A read error at the first of one counted line: `ctb_g2rdlvl` frees `info` and
`ctb_g2rdcntr` keeps its zeroed entry, and both report `G_NORMAL` with `nlines` 1. A line
that `ctb_g2read` cannot decode: its first call reports -2 but caches the table with the
undecoded entry, and every later call reports `G_NORMAL`. -/
theorem readers_report_incomplete_tables :
    (∀ decode lvltbl, ctbG2rdlvl decode lvltbl true (some 1) true [] = (⟨.freed,1⟩,gNormal)) ∧
    (∀ decode cntrtbl,
      ctbG2rdcntr decode cntrtbl true (some 1) [] = (⟨.live [none],1⟩,gNormal)) ∧
    (∀ cstLstr scan11 scan9 l, g2Decode cstLstr scan11 scan9 l = none →
      ctbG2read cstLstr scan11 scan9 G2Vars.init true (some 1) [l] =
          (⟨⟨.live [none],1⟩,true⟩,-2) ∧
        ∀ opened tbnr lines, ctbG2read cstLstr scan11 scan9 ⟨⟨.live [none],1⟩,true⟩ opened tbnr
          lines = (⟨⟨.live [none],1⟩,true⟩,gNormal)) :=
  ⟨fun _ _ => rfl,fun _ _ => rfl,fun _ _ _ _ h =>
    ⟨by simp [ctbG2read,readLines,G2Vars.init,h,gNormal],fun _ _ _ => rfl⟩⟩

theorem readers_report_incomplete_tables_empty_line :
    g2Decode (fun _ => 0) (fun _ => none) (fun _ => none) "" = none ∧
      ctbG2read (fun _ => 0) (fun _ => none) (fun _ => none) G2Vars.init true (some 1) [""] =
        (⟨⟨.live [none],1⟩,true⟩,-2) :=
  ⟨rfl,(readers_report_incomplete_tables.2.2 (fun _ => 0) (fun _ => none) (fun _ => none) "" rfl).1⟩

end Gempak
end Ldm7
