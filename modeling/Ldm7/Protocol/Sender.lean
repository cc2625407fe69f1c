import Ldm7.Protocol.LdmProxy
import Ldm7.Protocol.Feedme

/-! The LDM proxy of `LdmProxy.c` as a whole: `lp_new`, `lp_hiya`, `lp_send` and `lp_flush`
for either protocol version, with what each remote call returns as input. A downstream LDM
that reassembles products from the messages says what they mean, and the proxy refines it
over every run of calls. -/
namespace Ldm7
namespace LdmProxy

open Feedme (ProdClass FeedPar LdmErrt6 LdmReplyt)

/-- A message of the sending side of the LDM protocols: HIYA with the offered class,
COMINGSOON with the product's size and the size of its packets, BLKDATA, HEREIS with the
whole product, and NULLPROC. -/
inductive Msg
  | hiya (offer : ProdClass)
  | comingsoon (sz pktsz : UInt32)
  | blkdata (pkt : DataPkt)
  | hereis (p : Product)
  | nullproc

/-- An LDM-6 call that has a reply: the generated stub returns `NULL` exactly when
`clnt_call` fails, and `clnt_geterr` then reports that failure. -/
inductive Call6 (α : Type)
  | noReply (stat : ClntStat) (h : stat ≠ .success)
  | reply (r : α)

/-- The status of an LDM-6 call that has no reply (HEREIS_6, BLKDATA_6, asynchronous): the
client reports `RPC_TIMEDOUT` once the message is on its way. -/
def asyncStatus (stat : ClntStat) : LdmProxyStatus :=
  if stat = .timedout then .ok else getStatus stat

inductive Want
  | all
  | cls (c : ProdClass)

/-- The protocol version of a proxy; `lp_new` sets the version and the three functions of
the proxy together. -/
inductive Version
  | five | six
  deriving DecidableEq

/-- `LdmProxy`: the host, the version and `max_hereis`, which only `my_hiya_6` writes. -/
structure Proxy where
  host : String
  version : Version
  maxHereis : UInt32

section
variable (DBUFMAX : Nat) (hD : 0 < DBUFMAX)

/-- `my_hiya_5` after HIYA returned `hiya` with `reply`: the status and `*want` if set.
The codes other than 0 and RECLASS differ only in what is logged. -/
def myHiya5 (hiya : ClntStat) (reply : LdmReplyt) : LdmProxyStatus × Option Want :=
  if hiya ≠ .success then (getStatus hiya,none)
  else match reply with
    | .code .ok _ => (.ok,some .all)
    | .code _ _ => (.ldmError,none)
    | .reclass newclssp => (.ok,some (.cls newclssp))

/-- The messages `my_send_5` puts on the connection, given the packets of `my_csbd_5`'s
loop: a COMINGSOON announcing packets of `DBUFMAX` bytes, sent whatever the LDM answers,
then the packets; or one HEREIS. -/
def send5Msgs (prod : Product) (pkts : List DataPkt) : List Msg :=
  if DBUFMAX < prod.sz.toNat then .comingsoon prod.sz (UInt32.ofNat DBUFMAX) :: pkts.map .blkdata
  else [.hereis prod]

/-- `hiya_reply_t`: code 0 carries `max_hereis`, RECLASS a `feedpar_t`, the others nothing. -/
inductive HiyaReply
  | ok (maxHereis : UInt32)
  | reclass (feedPar : FeedPar)
  | other (code : LdmErrt6) (h : code ≠ .ok ∧ code ≠ .reclass)

/-- `my_hiya_6`: the status, `*want` if set, and the proxy with `max_hereis` as the LDM
asked. -/
def myHiya6 (p : Proxy) : Call6 HiyaReply → LdmProxyStatus × Option Want × Proxy
  | .noReply stat _ => (getStatus stat,none,p)
  | .reply (.ok m) => (.ok,some .all,{ p with maxHereis := m })
  | .reply (.reclass feedPar) =>
    (.ok,some (.cls feedPar.prodClass),{ p with maxHereis := feedPar.maxHereis })
  | .reply (.other _ _) => (.ldmError,none,p)

/-- `my_csbd_6`: COMINGSOON_6 with packets of the whole product's size; when the LDM
answers 0, one BLKDATA_6 carrying every byte. The status and the messages. -/
def myCsbd6 (comingsoon : Call6 LdmErrt6) (blkdata : ClntStat) (prod : Product) :
    LdmProxyStatus × List Msg :=
  match comingsoon with
  | .noReply stat _ => (getStatus stat,[.comingsoon prod.sz prod.sz])
  | .reply .dontSend => (.unwanted,[.comingsoon prod.sz prod.sz])
  | .reply .ok =>
    (asyncStatus blkdata,[.comingsoon prod.sz prod.sz,.blkdata ⟨0,prod.sz,prod.data⟩])
  | .reply _ => (.ldmError,[.comingsoon prod.sz prod.sz])

def myHereis6 (hereis : ClntStat) (prod : Product) : LdmProxyStatus × List Msg :=
  (asyncStatus hereis,[.hereis prod])

/-- `my_send_6`: HEREIS_6 for a product of at most `max_hereis` bytes. -/
def mySend6 (p : Proxy) (comingsoon : Call6 LdmErrt6) (blkdata hereis : ClntStat)
    (prod : Product) : LdmProxyStatus × List Msg :=
  if prod.sz ≤ p.maxHereis then myHereis6 hereis prod else myCsbd6 comingsoon blkdata prod

/-- The error codes of `ldm_clnttcp_create_vers` that `convertStatus` tells apart. -/
inductive ClntErr
  | unknownHost | timedOut | noConnect | badVersion | system
  deriving DecidableEq

inductive NewStatus
  | system | timedout | hostUnreach | rpcError | ldmError
  deriving DecidableEq

def convertStatus : ClntErr → NewStatus
  | .unknownHost => .hostUnreach
  | .timedOut => .timedout
  | .noConnect => .rpcError
  | .badVersion => .ldmError
  | .system => .system

/-- `lp_new`, with whether `malloc` and `strdup` succeed, the errors of the connections
for LDM-6 and LDM-5 (`none` is success) and the `max_hereis` the new memory holds. -/
def lpNew (host : String) (mallocOk strdupOk : Bool) (connect6 connect5 : Option ClntErr)
    (heldMaxHereis : UInt32) : Except NewStatus Proxy :=
  if !mallocOk then .error .system
  else if !strdupOk then .error .system
  else match connect6 with
    | none => .ok ⟨host,.six,heldMaxHereis⟩
    | some .badVersion =>
      match connect5 with
      | none => .ok ⟨host,.five,heldMaxHereis⟩
      | some e => .error (convertStatus e)
    | some e => .error (convertStatus e)

/-- The outcomes of every call `lp_send` can make, for either version. -/
structure SendEnv where
  comingsoon5 : RpcOutcome
  blkdata5 : Nat → RpcOutcome
  hereis5 : RpcOutcome
  comingsoon6 : Call6 LdmErrt6
  blkdata6 : ClntStat
  hereis6 : ClntStat

def lpSend (p : Proxy) (e : SendEnv) (prod : Product) : LdmProxyStatus × List Msg :=
  match p.version with
  | .five => ((mySend5 DBUFMAX hD e.comingsoon5 e.blkdata5 e.hereis5 prod).1,
      send5Msgs DBUFMAX prod (mySend5 DBUFMAX hD e.comingsoon5 e.blkdata5 e.hereis5 prod).2)
  | .six => mySend6 p e.comingsoon6 e.blkdata6 e.hereis6 prod

/-- `lp_hiya`, with the outcomes for either version: the status, `*want` if set, the
proxy afterwards and the messages. -/
def lpHiya (p : Proxy) (offer : ProdClass) (hiya5 : ClntStat) (reply5 : LdmReplyt)
    (hiya6 : Call6 HiyaReply) : LdmProxyStatus × Option Want × Proxy × List Msg :=
  match p.version with
  | .five => ((myHiya5 hiya5 reply5).1,(myHiya5 hiya5 reply5).2,p,[.hiya offer])
  | .six => ((myHiya6 p hiya6).1,(myHiya6 p hiya6).2.1,(myHiya6 p hiya6).2.2,[.hiya offer])

/-- `lp_flush`: `my_flush_5` does nothing, `my_flush_6` calls NULLPROC_6. -/
def lpFlush (p : Proxy) (nullproc : ClntStat) : LdmProxyStatus × List Msg :=
  match p.version with
  | .five => (.ok,[])
  | .six => (getStatus nullproc,[.nullproc])

/-- A downstream LDM as the messages describe it. HEREIS carries a whole product. A
COMINGSOON announces a product of `sz` bytes sent in packets of `pktsz`; each BLKDATA that
follows carries the bytes from `pktnum * pktsz` on, `dbuf_len` of them and no more than
`pktsz`, and the product is complete when it has its size. A packet that does not fit
drops the product being assembled. -/
structure Downstream where
  assembling : Option (UInt32 × UInt32 × List UInt8)
  delivered : List (List UInt8)

/-- A BLKDATA packet fits a product of `sz` bytes in packets of `pktsz` of which `got`
has arrived. -/
def Fits (sz pktsz : UInt32) (got : List UInt8) (pkt : DataPkt) : Prop :=
  got.length = pkt.pktnum.toNat * pktsz.toNat ∧ pkt.dbufLen.toNat = pkt.dbufVal.length ∧
    pkt.dbufVal.length ≤ pktsz.toNat ∧ got.length + pkt.dbufVal.length ≤ sz.toNat

instance (sz pktsz : UInt32) (got : List UInt8) (pkt : DataPkt) :
    Decidable (Fits sz pktsz got pkt) :=
  inferInstanceAs (Decidable (_ ∧ _))

def Downstream.recv (d : Downstream) : Msg → Downstream
  | .hereis prod => ⟨none,d.delivered ++ [prod.data]⟩
  | .comingsoon sz pktsz => ⟨some (sz,pktsz,[]),d.delivered⟩
  | .blkdata pkt =>
    match d.assembling with
    | none => d
    | some (sz,pktsz,got) =>
      if Fits sz pktsz got pkt then
        if got.length + pkt.dbufVal.length = sz.toNat then
          ⟨none,d.delivered ++ [got ++ pkt.dbufVal]⟩
        else ⟨some (sz,pktsz,got ++ pkt.dbufVal),d.delivered⟩
      else ⟨none,d.delivered⟩
  | .hiya _ | .nullproc => d

def Downstream.recvAll (d : Downstream) (ms : List Msg) : Downstream := ms.foldl Downstream.recv d

@[simp] theorem recvAll_nil (d : Downstream) : d.recvAll [] = d := rfl

@[simp] theorem recvAll_cons (d : Downstream) (m : Msg) (ms : List Msg) :
    d.recvAll (m :: ms) = (d.recv m).recvAll ms := rfl

theorem recvAll_append (d : Downstream) (ms ms' : List Msg) :
    d.recvAll (ms ++ ms') = (d.recvAll ms).recvAll ms' := List.foldl_append ..

/-- Messages that carry `data`: HEREIS of a product with these bytes, or a COMINGSOON of
their size in packets of `P` bytes followed by the first `m` of their packets. The flag says
whether they are all of the product's messages. -/
inductive Transmits (data : List UInt8) : Bool → List Msg → Prop
  | hereis (prod : Product) (h : prod.data = data) : Transmits data true [.hereis prod]
  | csbd (sz : UInt32) (P m : Nat) (hsz : sz.toNat = data.length) (hP : 0 < P)
      (hP' : P < UInt32.size) (hne : data ≠ []) (hm : m ≤ npkts P data.length) :
      Transmits data (decide (m = npkts P data.length)) (.comingsoon sz (UInt32.ofNat P) ::
        ((List.range m).map (loopPkt P 0 data)).map .blkdata)

end

section
variable {P : Nat}

theorem lt_npkts_iff (hP : 0 < P) {k n : Nat} : k < npkts P n ↔ k * P < n := by
  unfold npkts
  rw [← Nat.add_one_le_iff,Nat.le_div_iff_mul_le hP,Nat.succ_mul]
  omega

theorem recv_loopPkt (hP : 0 < P) (hP' : P < UInt32.size) {sz : UInt32} {data : List UInt8}
    (hsz : sz.toNat = data.length) (del : List (List UInt8)) {k : Nat}
    (hk : k < npkts P data.length) :
    Downstream.recv ⟨some (sz,UInt32.ofNat P,data.take (k * P)),del⟩
        (.blkdata (loopPkt P 0 data k)) =
      if k + 1 < npkts P data.length then ⟨some (sz,UInt32.ofNat P,data.take ((k + 1) * P)),del⟩
      else ⟨none,del ++ [data]⟩ := by
  have hkP : k * P < data.length := (lt_npkts_iff hP).mp hk
  have hlen : data.length < UInt32.size := hsz ▸ UInt32.toNat_lt_size sz
  have hkl : k < UInt32.size := by have := Nat.le_mul_of_pos_right k hP; omega
  have hc : (chunk P data k).length = min P (data.length - k * P) := by simp [chunk]
  have hfits : Fits sz (UInt32.ofNat P) (data.take (k * P)) (loopPkt P 0 data k) := by
    refine ⟨?_,UInt32.toNat_ofNat_of_lt (by omega),?_,?_⟩
    · simp only [loopPkt,Nat.zero_add,List.length_take,UInt32.toNat_ofNat_of_lt hP',
        UInt32.toNat_ofNat_of_lt hkl]
      omega
    · simp only [loopPkt,hc,UInt32.toNat_ofNat_of_lt hP']; omega
    · simp only [loopPkt,List.length_take,hc,hsz]; omega
  have happ : data.take (k * P) ++ chunk P data k = data.take ((k + 1) * P) := by
    rw [Nat.succ_mul,List.take_add]; rfl
  have hnext := (lt_npkts_iff hP (k := k + 1) (n := data.length))
  rw [Nat.succ_mul] at hnext
  simp only [Downstream.recv]
  rw [if_pos hfits]
  simp only [loopPkt,List.length_take,hc,happ,hsz]
  split_ifs with hlast hmore hmore
  · omega
  · rw [List.take_of_length_le (by rw [Nat.succ_mul]; omega)]
  · rfl
  · omega

theorem recvAll_packets (hP : 0 < P) (hP' : P < UInt32.size) {sz : UInt32} {data : List UInt8}
    (hsz : sz.toNat = data.length) (hne : data ≠ []) (d : Downstream) {m : Nat}
    (hm : m ≤ npkts P data.length) :
    d.recvAll (.comingsoon sz (UInt32.ofNat P) ::
        ((List.range m).map (loopPkt P 0 data)).map .blkdata) =
      if m < npkts P data.length then ⟨some (sz,UInt32.ofNat P,data.take (m * P)),d.delivered⟩
      else ⟨none,d.delivered ++ [data]⟩ := by
  induction m with
  | zero =>
    have : 0 < npkts P data.length :=
      (lt_npkts_iff hP).mpr (by simpa using List.length_pos.mpr hne)
    simp [Downstream.recv,this]
  | succ m ih =>
    rw [List.range_succ,List.map_append,List.map_append,← List.cons_append,recvAll_append,
      ih (by omega),if_pos (by omega)]
    exact recv_loopPkt hP hP' hsz d.delivered (by omega)

end

theorem recvAll_transmits {data : List UInt8} {w : Bool} {msgs : List Msg}
    (h : Transmits data w msgs) (d : Downstream) :
    ((d.recvAll msgs).delivered = d.delivered ∨
        (d.recvAll msgs).delivered = d.delivered ++ [data]) ∧
      (w = true → (d.recvAll msgs).delivered = d.delivered ++ [data]) := by
  cases h with
  | hereis prod hp => simp [Downstream.recv,hp]
  | csbd sz P m hsz hP hP' hne hm =>
    rw [recvAll_packets hP hP' hsz hne d hm]
    by_cases hl : m < npkts P data.length
    · simp only [if_pos hl,true_or,true_and,decide_eq_true_eq]; omega
    · simp [if_neg hl]

theorem Transmits.take {data : List UInt8} {w : Bool} {msgs : List Msg}
    (h : Transmits data w msgs) (n : Nat) :
    msgs.take n = [] ∨ ∃ w', Transmits data w' (msgs.take n) := by
  rcases n with _ | n
  · exact .inl rfl
  · right
    cases h with
    | hereis prod hp => exact ⟨true,by simpa using Transmits.hereis prod hp⟩
    | csbd sz P m hsz hP hP' hne hm =>
      rw [List.take_succ_cons,← List.map_take,← List.map_take,List.take_range]
      exact ⟨_,.csbd sz P _ hsz hP hP' hne (by omega)⟩

section
variable (DBUFMAX : Nat) (hD : 0 < DBUFMAX)

theorem blkdataLoop_sent (b : Nat → RpcOutcome) (data : List UInt8) (k0 : Nat) :
    ∃ m ≤ npkts DBUFMAX data.length,
      (blkdataLoop DBUFMAX hD b data (UInt32.ofNat k0) data.length).2 =
        (List.range m).map (loopPkt DBUFMAX k0 data) ∧
      ((blkdataLoop DBUFMAX hD b data (UInt32.ofNat k0) data.length).1 = .ok →
        m = npkts DBUFMAX data.length) := by
  obtain ⟨N,hN⟩ : ∃ N, npkts DBUFMAX data.length = N := ⟨_,rfl⟩
  induction N generalizing b data k0 with
  | zero =>
    obtain rfl := eq_nil_of_npkts_eq_zero DBUFMAX hD hN
    exact ⟨0,by omega,by simp [blkdataLoop_nil],fun _ => hN.symm⟩
  | succ N ih =>
    have h := ne_nil_of_lt_npkts DBUFMAX hD (show 0 < npkts DBUFMAX data.length by omega)
    have hdrop := npkts_drop DBUFMAX hD h
    by_cases hb : b 0 = .okay
    · obtain ⟨m,hm,he,hok⟩ := ih (fun j => b (j + 1)) (data.drop DBUFMAX) (k0 + 1) (by omega)
      refine ⟨m + 1,by omega,?_,fun h1 => ?_⟩
      · rw [blkdataLoop_okay DBUFMAX hD b data k0 h hb,he,List.range_succ_eq_map]
        simp [loopPkt_drop]
      · rw [blkdataLoop_okay DBUFMAX hD b data k0 h hb] at h1
        have := hok h1; omega
    · obtain ⟨h1,h2⟩ := blkdataLoop_fail DBUFMAX hD b data k0 h hb
      exact ⟨1,by omega,by rw [h2]; rfl,fun h => absurd h h1⟩

theorem myCsbd5_sent (comingsoon : RpcOutcome) (blkdata : Nat → RpcOutcome) (prod : Product) :
    ∃ m ≤ npkts DBUFMAX prod.data.length,
      (myCsbd5 DBUFMAX hD comingsoon blkdata prod).2 =
        (List.range m).map (loopPkt DBUFMAX 0 prod.data) ∧
      ((myCsbd5 DBUFMAX hD comingsoon blkdata prod).1 = .ok →
        m = npkts DBUFMAX prod.data.length) := by
  unfold myCsbd5
  split_ifs with hs hc hd
  · exact ⟨0,Nat.zero_le _,rfl,fun h => absurd h hs⟩
  · exact ⟨0,Nat.zero_le _,rfl,nofun⟩
  · exact ⟨0,Nat.zero_le _,rfl,nofun⟩
  · rw [← prod.length_data]; exact blkdataLoop_sent DBUFMAX hD blkdata prod.data 0

theorem mySend5_transmits (hDB : DBUFMAX < UInt32.size) (comingsoon : RpcOutcome)
    (blkdata : Nat → RpcOutcome) (hereis : RpcOutcome) (prod : Product) :
    ∃ w, Transmits prod.data w
        (send5Msgs DBUFMAX prod (mySend5 DBUFMAX hD comingsoon blkdata hereis prod).2) ∧
      ((mySend5 DBUFMAX hD comingsoon blkdata hereis prod).1 = .ok → w = true) := by
  unfold send5Msgs mySend5
  by_cases hl : DBUFMAX < prod.sz.toNat
  · rw [if_pos hl,if_pos hl]
    obtain ⟨m,hm,he,hok⟩ := myCsbd5_sent DBUFMAX hD comingsoon blkdata prod
    have hne : prod.data ≠ [] := List.ne_nil_of_length_pos (by rw [prod.length_data]; omega)
    rw [he]
    exact ⟨_,.csbd prod.sz DBUFMAX m prod.length_data.symm hD hDB hne hm,
      fun h => decide_eq_true (hok h)⟩
  · rw [if_neg hl,if_neg hl]
    exact ⟨true,.hereis prod rfl,fun _ => rfl⟩

end

theorem npkts_self {P : Nat} (hP : 0 < P) : npkts P P = 1 := by
  unfold npkts
  exact Nat.div_eq_of_lt_le (by omega) (by omega)

theorem csbd6_transmits (prod : Product) (hsz : 0 < prod.sz.toNat) (m : Nat) (hm : m ≤ 1) :
    Transmits prod.data (decide (m = 1)) (.comingsoon prod.sz prod.sz ::
      ((List.range m).map fun _ => DataPkt.mk 0 prod.sz prod.data).map .blkdata) := by
  have hlt := UInt32.toNat_lt_size prod.sz
  have hself : UInt32.ofNat prod.sz.toNat = prod.sz :=
    UInt32.toNat.inj (UInt32.toNat_ofNat_of_lt hlt)
  have hne : prod.data ≠ [] := List.ne_nil_of_length_pos (by rw [prod.length_data]; exact hsz)
  have hpkt : ∀ j ∈ List.range m, loopPkt prod.sz.toNat 0 prod.data j = ⟨0,prod.sz,prod.data⟩ := by
    intro j hj
    obtain rfl : j = 0 := by simp at hj; omega
    simp [loopPkt,chunk,prod.length_data,hself]
  have h := Transmits.csbd prod.sz prod.sz.toNat m prod.length_data.symm hsz hlt hne
    (by rw [prod.length_data,npkts_self hsz]; exact hm)
  rwa [prod.length_data,npkts_self hsz,hself,List.map_congr_left hpkt] at h

theorem mySend6_transmits (p : Proxy) (comingsoon : Call6 LdmErrt6) (blkdata hereis : ClntStat)
    (prod : Product) :
    ∃ w, Transmits prod.data w (mySend6 p comingsoon blkdata hereis prod).2 ∧
      ((mySend6 p comingsoon blkdata hereis prod).1 = .ok → w = true) := by
  unfold mySend6
  by_cases hl : prod.sz ≤ p.maxHereis
  · rw [if_pos hl]
    exact ⟨true,.hereis prod rfl,fun _ => rfl⟩
  · rw [if_neg hl]
    have hsz : 0 < prod.sz.toNat := by
      have : ¬prod.sz.toNat ≤ p.maxHereis.toNat := hl; omega
    have h0 := csbd6_transmits prod hsz 0 (by omega)
    have h1 := csbd6_transmits prod hsz 1 le_rfl
    simp only [List.range_zero,show List.range 1 = [0] from rfl,List.map_nil,List.map_cons] at h0 h1
    rcases comingsoon with ⟨stat,hs⟩ | code
    · exact ⟨_,h0,fun h => absurd (getStatus_eq_ok.mp h) hs⟩
    · cases code with
      | ok => exact ⟨_,h1,fun _ => rfl⟩
      | _ => exact ⟨_,h0,nofun⟩

section
variable (DBUFMAX : Nat) (hD : 0 < DBUFMAX)

theorem lpSend_transmits (hDB : DBUFMAX < UInt32.size) (p : Proxy) (e : SendEnv)
    (prod : Product) :
    ∃ w, Transmits prod.data w (lpSend DBUFMAX hD p e prod).2 ∧
      ((lpSend DBUFMAX hD p e prod).1 = .ok → w = true) := by
  unfold lpSend
  split
  · exact mySend5_transmits DBUFMAX hD hDB e.comingsoon5 e.blkdata5 e.hereis5 prod
  · exact mySend6_transmits p e.comingsoon6 e.blkdata6 e.hereis6 prod

inductive Call
  | hiya (offer : ProdClass) (hiya5 : ClntStat) (reply5 : LdmReplyt) (hiya6 : Call6 HiyaReply)
  | send (prod : Product) (e : SendEnv)
  | flush (nullproc : ClntStat)

def Proxy.call (p : Proxy) : Call → LdmProxyStatus × Proxy × List Msg
  | .hiya offer hiya5 reply5 hiya6 =>
    ((lpHiya p offer hiya5 reply5 hiya6).1,(lpHiya p offer hiya5 reply5 hiya6).2.2)
  | .send prod e => ((lpSend DBUFMAX hD p e prod).1,p,(lpSend DBUFMAX hD p e prod).2)
  | .flush nullproc => ((lpFlush p nullproc).1,p,(lpFlush p nullproc).2)

def Call.sends : Call → List (List UInt8)
  | .send prod _ => [prod.data]
  | _ => []

/-- A proxy and the downstream LDM it talks to, with the products the proxy was asked to
send and those `lp_send` returned 0 for. -/
structure Session where
  proxy : Proxy
  downstream : Downstream
  sent : List (List UInt8)
  acked : List (List UInt8)

/-- A call of which the first `n` messages reach the downstream LDM. -/
def Session.step (s : Session) (c : Call) (n : Nat) : Session :=
  ⟨(s.proxy.call DBUFMAX hD c).2.1,s.downstream.recvAll ((s.proxy.call DBUFMAX hD c).2.2.take n),
    s.sent ++ c.sends,s.acked ++ if (s.proxy.call DBUFMAX hD c).1 = .ok then c.sends else []⟩

def Session.run (s : Session) : List (Call × Nat) → Session
  | [] => s
  | (c,n) :: cs => (s.step DBUFMAX hD c n).run cs

/-- Every call that returns 0 has all its messages arrive. -/
def Session.Reliable (s : Session) : List (Call × Nat) → Prop
  | [] => True
  | (c,n) :: cs => ((s.proxy.call DBUFMAX hD c).1 = .ok →
      (s.proxy.call DBUFMAX hD c).2.2.length ≤ n) ∧ (s.step DBUFMAX hD c n).Reliable cs

instance Session.decReliable (s : Session) : (cs : List (Call × Nat)) →
    Decidable (s.Reliable DBUFMAX hD cs)
  | [] => isTrue trivial
  | (c,n) :: cs =>
    have := Session.decReliable (s.step DBUFMAX hD c n) cs
    inferInstanceAs (Decidable (_ ∧ _))

/-- The downstream LDM has every product `lp_send` returned 0 for, and nothing but the
products the proxy was asked to send, in the order they were sent. -/
def Session.Delivers (s : Session) : Prop :=
  s.acked.Sublist s.downstream.delivered ∧ s.downstream.delivered.Sublist s.sent

def Session.start (p : Proxy) : Session := ⟨p,⟨none,[]⟩,[],[]⟩

end

theorem recvAll_take_transmits {data : List UInt8} {w : Bool} {msgs : List Msg}
    (h : Transmits data w msgs) (d : Downstream) (n : Nat) :
    ((d.recvAll (msgs.take n)).delivered = d.delivered ∨
        (d.recvAll (msgs.take n)).delivered = d.delivered ++ [data]) ∧
      (w = true → msgs.length ≤ n → (d.recvAll (msgs.take n)).delivered = d.delivered ++ [data]) := by
  refine ⟨?_,fun hw hn => by rw [List.take_of_length_le hn]; exact (recvAll_transmits h d).2 hw⟩
  rcases h.take n with h0 | ⟨w',h'⟩
  · exact .inl (by rw [h0]; rfl)
  · exact (recvAll_transmits h' d).1

theorem recvAll_take_single {m : Msg} (hm : ∀ d : Downstream, d.recv m = d) (d : Downstream)
    (n : Nat) : d.recvAll ([m].take n) = d := by
  rcases n with _ | n
  · rfl
  · simp [hm d]

section
variable (DBUFMAX : Nat) (hD : 0 < DBUFMAX)

/-- One call keeps the session's delivery invariant when a call that returns 0 has all its
messages arrive. -/
theorem Session.step_delivers (hDB : DBUFMAX < UInt32.size) {s : Session} (hs : s.Delivers)
    (c : Call) (n : Nat) (hc : (s.proxy.call DBUFMAX hD c).1 = .ok →
      (s.proxy.call DBUFMAX hD c).2.2.length ≤ n) :
    (s.step DBUFMAX hD c n).Delivers := by
  cases c with
  | send prod e =>
    obtain ⟨w,hT,hok⟩ := lpSend_transmits DBUFMAX hD hDB s.proxy e prod
    obtain ⟨hsome,hall⟩ := recvAll_take_transmits hT s.downstream n
    simp only [Session.Delivers,Session.step,Proxy.call,Call.sends] at hc ⊢
    by_cases hst : (lpSend DBUFMAX hD s.proxy e prod).1 = .ok
    · rw [if_pos hst,hall (hok hst) (hc hst)]
      exact ⟨hs.1.append (List.Sublist.refl _),hs.2.append (List.Sublist.refl _)⟩
    · rw [if_neg hst]
      rcases hsome with he | he <;> rw [he]
      · exact ⟨by simpa using hs.1,hs.2.trans (List.sublist_append_left _ _)⟩
      · exact ⟨by simpa using hs.1.trans (List.sublist_append_left _ _),
          hs.2.append (List.Sublist.refl _)⟩
  | hiya offer hiya5 reply5 hiya6 =>
    have hm : ∀ d : Downstream, d.recv (.hiya offer) = d := fun _ => rfl
    have hmsgs : (lpHiya s.proxy offer hiya5 reply5 hiya6).2.2.2 = [.hiya offer] := by
      unfold lpHiya; split <;> rfl
    simpa [Session.Delivers,Session.step,Proxy.call,Call.sends,hmsgs,
      recvAll_take_single hm] using hs
  | flush nullproc =>
    have hm : ∀ d : Downstream, d.recv .nullproc = d := fun _ => rfl
    have hsame : s.downstream.recvAll ((lpFlush s.proxy nullproc).2.take n) = s.downstream := by
      unfold lpFlush; split
      · simp
      · exact recvAll_take_single hm _ n
    simpa [Session.Delivers,Session.step,Proxy.call,Call.sends,hsame] using hs

/-- Over every run of calls in which each call that returns 0 has all its messages
arrive, the downstream LDM has every product `lp_send` returned 0 for and nothing but the
products the proxy was asked to send, in order. -/
theorem Session.run_delivers (hDB : DBUFMAX < UInt32.size) (s : Session) (hs : s.Delivers)
    (cs : List (Call × Nat)) (hc : s.Reliable DBUFMAX hD cs) : (s.run DBUFMAX hD cs).Delivers := by
  induction cs generalizing s with
  | nil => exact hs
  | cons cn cs ih =>
    obtain ⟨c,n⟩ := cn
    exact ih _ (Session.step_delivers DBUFMAX hD hDB hs c n hc.1) hc.2

end

/-- A session of an LDM-6 proxy in which a small product goes by HEREIS_6 and the
connection is flushed. -/
theorem session_delivers_hereis :
    let prod : Product := ⟨1,[7],rfl⟩
    let e : SendEnv := ⟨.okay,fun _ => .okay,.okay,.noReply .timedout nofun,.timedout,.timedout⟩
    let cs := [(Call.send prod e,1),(Call.flush .success,1)]
    (Session.start ⟨"",.six,16⟩).Reliable 1 Nat.one_pos cs ∧
      ((Session.start ⟨"",.six,16⟩).run 1 Nat.one_pos cs).Delivers :=
  ⟨by decide,Session.run_delivers 1 Nat.one_pos (by decide) _ ⟨.slnil,.slnil⟩ _ (by decide)⟩

end LdmProxy
end Ldm7
