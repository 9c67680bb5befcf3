import GoBacnet.Client.ReadRangePager
import GoBacnet.Proofs.RangeReply
import GoBacnet.Proofs.TrendLogBuffer

/-!
# A trend log read page by page

From a position of the buffer on, the pages that the server answers are the records of the buffer in order, each once,
up to the newest. A range by sequence number that begins before the oldest record is clipped at its start, and the
client takes the short page for the last.
-/

namespace GoBacnet

open Service

namespace Server

open Proofs

variable {budget : Int} {r : ReadRangeRequest} {sel : RangeResult}

def FitsSingle (budget : Int) (tl : TrendLog) (r : ReadRangeRequest) : Prop :=
  ∀ e ∈ tl.records, ∀ first last more : Bool, ∀ seq ∈ [none, some e.seq],
    ∀ payload ∈ (encodeReadRangeACK
      { object := r.object, property := r.property, resultFlags := encodeResultFlags first last more, itemCount := 1
        logRecords := [e.record], firstSequence := seq }).toOption, (payload.length : Int) ≤ budget

instance (budget : Int) (tl : TrendLog) (r : ReadRangeRequest) : Decidable (FitsSingle budget tl r) :=
  inferInstanceAs (Decidable (∀ e ∈ tl.records, _))

/-! ### What the server selects -/

structure TrendLog.Unwrapped (tl : TrendLog) : Prop where
  seq : ∀ (i : Nat) (e : LogEntry), tl.records[i]? = some e → e.seq + tl.records.length = tl.total + 1 + i
  length : tl.records.length ≤ tl.total
  total : tl.total < 2 ^ 32

lemma TrendLog.Unwrapped.append {tl : TrendLog} {kept : List LogEntry} {e : LogEntry}
    (hseq : ∀ (i : Nat) (x : LogEntry), kept[i]? = some x → x.seq + kept.length = tl.total + 1 + i)
    (hlen : kept.length ≤ tl.total) (he : e.seq = tl.total + 1) (hnext : tl.total + 1 < 2 ^ 32) :
    ({ tl with records := kept ++ [e], total := tl.total + 1 } : TrendLog).Unwrapped where
  seq i x hx := by
    simp only [List.length_append, List.length_singleton]
    by_cases hi : i < kept.length
    · rw [List.getElem?_append_left hi] at hx
      have := hseq i x hx
      omega
    · obtain ⟨hlt, -⟩ := List.getElem?_eq_some_iff.mp hx
      simp only [List.length_append, List.length_singleton] at hlt
      obtain rfl : i = kept.length := by omega
      rw [List.getElem?_concat_length, Option.some.injEq] at hx
      subst hx
      omega
  length := by simpa using hlen
  total := hnext

lemma TrendLog.Unwrapped.log {tl : TrendLog} (h : tl.Unwrapped) (hnext : tl.total + 1 < 2 ^ 32) (time : Int)
    (timestamp : DateTime) (v : ApplicationValue) (flags : Option BitString) :
    (tl.log time timestamp v flags).Unwrapped := by
  have hmod : (tl.total + 1) % 2 ^ 32 = tl.total + 1 := Nat.mod_eq_of_lt hnext
  unfold TrendLog.log
  cases datumChoice v with
  | none => exact h
  | some choice =>
    dsimp only
    by_cases hen : (!tl.enable) = true
    · rw [if_pos hen]
      exact h
    rw [if_neg hen]
    by_cases hstop : tl.records.length ≥ tl.bufferSize ∧ tl.stopWhenFull = true
    · rw [if_pos hstop]
      exact ⟨h.seq, h.length, h.total⟩
    rw [if_neg hstop, hmod, if_neg (Nat.succ_ne_zero _)]
    apply Unwrapped.append _ _ rfl hnext
    · intro i x hx
      by_cases hfull : tl.records.length ≥ tl.bufferSize
      · rw [if_pos hfull, List.getElem?_drop] at hx
        obtain ⟨hlt, -⟩ := List.getElem?_eq_some_iff.mp hx
        have := h.seq _ x hx
        rw [if_pos hfull, List.length_drop]
        omega
      · rw [if_neg hfull] at hx ⊢
        exact h.seq i x hx
    · have := h.length
      by_cases hfull : tl.records.length ≥ tl.bufferSize
      · rw [if_pos hfull, List.length_drop]
        omega
      · rwa [if_neg hfull]

def span (tl : TrendLog) (p m : Nat) : RangeResult where
  records := ((tl.records.drop p).take m).map LogEntry.record
  position := p + 1
  total := tl.records.length
  firstSequence := tl.total + 1 + p - tl.records.length
  sequenced := true

section Selection

variable {tl : TrendLog} {prop : PropertyReference} {q : RangeQuery} {p m : Nat}

lemma isLogBuffer_of_readRange {res : RangeResult} (h : tl.readRange prop q = .ok res) : IsLogBuffer prop := by
  unfold TrendLog.readRange at h
  obtain ⟨hid, h⟩ := Except.check_eq_ok_iff.mp h
  obtain ⟨hidx, -⟩ := Except.check_eq_ok_iff.mp h
  exact ⟨not_not.mp hid, by simpa using hidx⟩

lemma TrendLog.Unwrapped.first_seq (h : tl.Unwrapped) {e : LogEntry} (he : tl.records.head? = some e) :
    e.seq + tl.records.length = tl.total + 1 := by
  rw [List.head?_eq_getElem?] at he
  exact h.seq 0 e he

lemma TrendLog.Unwrapped.last_seq (h : tl.Unwrapped) {e : LogEntry} (he : tl.records.getLast? = some e) :
    e.seq = tl.total := by
  rw [List.getLast?_eq_getElem?] at he
  obtain ⟨hlt, -⟩ := List.getElem?_eq_some_iff.mp he
  have := h.seq _ e he
  omega

lemma readRange_span (h : tl.Unwrapped) (hprop : IsLogBuffer prop) (hm : 0 < m) (hlen : p + m ≤ tl.records.length)
    (hsel : ∀ first last, tl.records.head? = some first → tl.records.getLast? = some last →
      TrendLog.select tl.records first last q = some (p, (p : Int) + m - 1)) :
    tl.readRange prop q = .ok (span tl p m) := by
  have hne : tl.records ≠ [] := by
    rintro hnil
    simp [hnil] at hlen
    omega
  have hselected : (tl.records.take ((p : Int) + m - 1 + 1).toNat).drop p = (tl.records.drop p).take m := by
    rw [List.drop_take]
    congr 1
    omega
  have hget : tl.records[p]? = some (tl.records.get ⟨p, by omega⟩) := List.getElem?_eq_getElem _
  have hseq := h.seq p _ hget
  rw [readRange_some hprop hne hsel, if_neg (by omega), hselected, hget, span, Option.map_some, Option.getD_some]
  congr 2
  omega

structure Aligned (tl : TrendLog) (q : RangeQuery) (p : Nat) : Prop where
  by_index : q.rangeBy = .position ∨ q.rangeBy = .sequenceNumber
  position : q.rangeBy = .position → q.index = p + 1
  sequenceNumber : q.rangeBy = .sequenceNumber → q.index + tl.records.length = tl.total + 1 + p
  count : 0 < q.count

lemma readRange_aligned (h : tl.Unwrapped) (hprop : IsLogBuffer prop) (hq : Aligned tl q p)
    (hp : p < tl.records.length) :
    tl.readRange prop q = .ok (span tl p (min q.count.toNat (tl.records.length - p))) := by
  have hcount := hq.count
  apply readRange_span h hprop (by omega) (by omega)
  intro first last hfirst hlast
  unfold TrendLog.select
  rcases hq.by_index with hby | hby
  · have hidx := hq.position hby
    simp only [hby, TrendLog.byPosition, TrendLog.bounds, if_neg hcount.ne', if_neg (not_lt.mpr hcount.le)]
    rw [if_neg (by omega), Option.map_some, Option.some.injEq, Prod.mk.injEq]
    omega
  · have hidx := hq.sequenceNumber hby
    have hf := h.first_seq hfirst
    have hl := h.last_seq hlast
    simp only [hby, TrendLog.bySequenceNumber, TrendLog.bounds, if_neg hcount.ne', if_neg (not_lt.mpr hcount.le)]
    rw [if_neg (by omega), Option.some.injEq, Prod.mk.injEq]
    omega

lemma readRange_beyond (h : tl.Unwrapped) (hprop : IsLogBuffer prop) (hq : Aligned tl q p)
    (hp : tl.records.length ≤ p) :
    tl.readRange prop q = .ok { total := tl.records.length, sequenced := true } := by
  have hcount := hq.count
  apply readRange_none hprop
  intro first last hfirst hlast
  unfold TrendLog.select
  rcases hq.by_index with hby | hby
  · have hidx := hq.position hby
    simp only [hby, TrendLog.byPosition, TrendLog.bounds, if_neg hcount.ne', if_neg (not_lt.mpr hcount.le)]
    rw [if_pos (by omega), Option.map_none]
  · have hidx := hq.sequenceNumber hby
    have hl := h.last_seq hlast
    simp only [hby, TrendLog.bySequenceNumber, TrendLog.bounds, if_neg hcount.ne', if_neg (not_lt.mpr hcount.le)]
    rw [if_pos (by omega)]

def TrendLog.oldest (tl : TrendLog) : Nat := tl.total + 1 - tl.records.length

def TrendLog.reached (tl : TrendLog) (q : RangeQuery) : Nat :=
  min (q.index + q.count.toNat - tl.oldest) tl.records.length

lemma readRange_clipped (h : tl.Unwrapped) (hprop : IsLogBuffer prop) (hby : q.rangeBy = .sequenceNumber)
    (hcount : 0 < q.count) (hbefore : q.index < tl.oldest) (hreach : 0 < tl.reached q) :
    tl.readRange prop q = .ok (span tl 0 (tl.reached q)) := by
  have hlen := h.length
  unfold TrendLog.reached TrendLog.oldest at *
  apply readRange_span h hprop hreach (by omega)
  intro first last hfirst hlast
  have hf := h.first_seq hfirst
  have hl := h.last_seq hlast
  simp only [TrendLog.select, hby, TrendLog.bySequenceNumber, TrendLog.bounds, if_neg hcount.ne',
    if_neg (not_lt.mpr hcount.le)]
  rw [if_neg (by omega), Option.some.injEq, Prod.mk.injEq]
  omega

lemma readRange_before (h : tl.Unwrapped) (hprop : IsLogBuffer prop) (hby : q.rangeBy = .sequenceNumber)
    (hcount : 0 < q.count) (hreach : tl.reached q = 0) :
    tl.readRange prop q = .ok { total := tl.records.length, sequenced := true } := by
  have hlen := h.length
  unfold TrendLog.reached TrendLog.oldest at hreach
  apply readRange_none hprop
  intro first last hfirst hlast
  have hf := h.first_seq hfirst
  have hl := h.last_seq hlast
  have hne : 0 < tl.records.length := List.length_pos_iff.mpr (List.ne_nil_of_mem (List.mem_of_mem_head? hfirst))
  simp only [TrendLog.select, hby, TrendLog.bySequenceNumber, TrendLog.bounds, if_neg hcount.ne',
    if_neg (not_lt.mpr hcount.le)]
  rw [if_pos (by omega)]

end Selection

/-! ### A page -/

section Page

variable {objects : ObjectIdentifier → Option TrendLog} {tl : TrendLog} {p m k : Nat} {ack : ReadRangeACK}
  {payload : Octets}

lemma readRange_selects (hobj : objects r.object = some tl) (h : readRange objects budget r = .ok (ack, payload)) :
    ∃ sel, tl.readRange r.property (rangeQuery r) = .ok sel := by
  unfold readRange at h
  rw [hobj] at h
  obtain ⟨tl', htl, h⟩ := Except.bind_eq_ok_iff.mp h
  cases htl
  obtain ⟨sel, hsel, -⟩ := Except.bind_eq_ok_iff.mp h
  exact ⟨sel, hsel⟩

lemma readRange_answer (hobj : objects r.object = some tl)
    (hsel : tl.readRange r.property (rangeQuery r) = .ok sel)
    (h : readRange objects budget r = .ok (ack, payload)) : rangeReply budget r sel = .ok (ack, payload) := by
  unfold readRange at h
  rw [hobj] at h
  obtain ⟨tl', htl, h⟩ := Except.bind_eq_ok_iff.mp h
  cases htl
  obtain ⟨sel', hsel', h⟩ := Except.bind_eq_ok_iff.mp h
  obtain rfl : sel' = sel := Except.ok.inj (hsel'.symm.trans hsel)
  exact h

lemma size_span (hp : p + m ≤ tl.records.length) : (span tl p m).size = m := by
  simp [RangeResult.size, span]
  omega

lemma exceeds_one (hfits : FitsSingle budget tl r) {r' : ReadRangeRequest} (hobject : r'.object = r.object)
    (hproperty : r'.property = r.property) (h : tl.Unwrapped) (hm : 0 < m) (hp : p + m ≤ tl.records.length)
    (hok : encodeReadRangeACK (buildACK r' (span tl p m) 1) = .ok payload) :
    exceeds budget (buildACK r' (span tl p m) 1) = false := by
  have hget : tl.records[p]? = some (tl.records.get ⟨p, by omega⟩) := List.getElem?_eq_getElem _
  have hseq := h.seq p _ hget
  have htake : ((tl.records.drop p).take m).take 1 = [tl.records.get ⟨p, by omega⟩] := by
    rw [List.take_take, Nat.min_eq_left hm, List.take_one, List.head?_drop, hget]
    rfl
  have hfit := hfits (tl.records.get ⟨p, by omega⟩) (List.get_mem ..)
    (decide (1 > 0) && decide ((span tl p m).position = 1))
    (decide (1 > 0) && decide (((span tl p m).position + 1 - 1) % 2 ^ 32 = (span tl p m).total))
    (decide (1 < (span tl p m).size))
    (buildACK r' (span tl p m) 1).firstSequence ?_ payload ?_
  · simp [exceeds, hok, hfit]
  · have hfirst : tl.total + 1 + p - tl.records.length = (tl.records.get ⟨p, by omega⟩).seq := by omega
    simp only [buildACK, span, hfirst]
    by_cases hby : r'.rangeBy = .sequenceNumber ∨ r'.rangeBy = .time
    · simp [hby]
    · simp [not_or.mp hby]
  · have hmem : payload ∈ (encodeReadRangeACK (buildACK r' (span tl p m) 1)).toOption := by
      simp [hok, Except.toOption]
    simpa [buildACK, span, hobject, hproperty, ← List.map_take, htake] using hmem

lemma readRange_page (hobj : objects r.object = some tl) {req : ReadRangeRequest} (hfits : FitsSingle budget tl req)
    (hobject : r.object = req.object) (hproperty : r.property = req.property) (hwrap : tl.Unwrapped) (hm : 0 < m)
    (hp : p + m ≤ tl.records.length) (hsel : tl.readRange r.property (rangeQuery r) = .ok (span tl p m))
    (h : readRange objects budget r = .ok (ack, payload)) :
    ∃ k, ack = buildACK r (span tl p m) k ∧ 0 < k ∧ k ≤ m ∧
      (k < m ↔ exceeds budget (buildACK r (span tl p m) m) = true) := by
  have hlen := size_span hp
  have hbound : m < 2 ^ 64 := by
    have := hwrap.length
    have := hwrap.total
    omega
  obtain ⟨k, hack, ⟨all, hall⟩, hk⟩ := rangeReply_answer (readRange_answer hobj hsel h)
  rw [hlen] at hall hk
  by_cases hexceeds : exceeds budget (buildACK r (span tl p m) m) = true
  · rw [if_pos hexceeds] at hk
    obtain ⟨one, hone, -⟩ := encode_fewer hm hbound hall
    have hfit1 := exceeds_one hfits hobject hproperty hwrap hm hp hone
    have hfit0 : exceeds budget (buildACK r (span tl p m) 0) = false := by
      by_contra hlong
      have hone' := exceeds_mono (Nat.zero_le 1) (by decide) (Bool.not_eq_false _ ▸ hlong)
      simp [hfit1] at hone'
    have hb := Search.search_boundary (m + 1) fun k => exceeds budget (buildACK r (span tl p m) k)
    generalize Search.search (m + 1) (fun k => exceeds budget (buildACK r (span tl p m) k)) = j at hb hk
    have hj0 : j ≠ 0 := by
      rintro rfl
      simpa [hfit0] using hb.at_bound (by omega)
    have hj1 : j ≠ 1 := by
      rintro rfl
      simpa [hfit1] using hb.at_bound (by omega)
    have hjm : j ≠ m + 1 := by
      rintro rfl
      simpa [hexceeds] using hb.before m rfl
    have hle := hb.le
    exact ⟨k, hack, by omega, by omega, iff_of_true (by omega) hexceeds⟩
  · rw [if_neg hexceeds] at hk
    subst hk
    exact ⟨k, hack, hm, le_rfl, iff_of_false (lt_irrefl k) hexceeds⟩

end Page

end Server

/-! ### The pages in turn -/

namespace Client

open Server

variable {ε : Type} {exchange : Nat → ReadRangeRequest → Except ε ReadRangeACK} {opts : ReadRangePageOptions}
  {left page items bytes : Nat} {cur : ReadRangeRequest} {records : List LogRecord} {out : ReadRangePageResult}

lemma readRange_ok {r : ReadRangeRequest} {ack : ReadRangeACK} {peer : ReadRangeRequest → Except ε ReadRangeACK}
    (h : readRange peer r = .ok ack) : peer r = .ok ack := by
  unfold readRange at h
  obtain ⟨-, h⟩ := Except.check_eq_ok_iff.mp h
  obtain ⟨ack', hpeer, h⟩ := Except.bind_eq_ok_iff.mp h
  obtain ⟨-, h⟩ := Except.check_eq_ok_iff.mp h
  cases h
  cases hr : peer r with
  | error e => simp [hr, Except.mapError] at hpeer
  | ok a => simpa [hr, Except.mapError] using hpeer

lemma readPages_full (h : readPages exchange opts left page cur items bytes records = (out, none))
    (hfull : out.isPartial = false) :
    ∃ ack left', left = left' + 1 ∧ readRange (exchange page) cur = .ok ack ∧
      if lastPage cur ack then out.logRecords = records ++ ack.logRecords
      else ∃ next items' bytes', nextPage opts.pageCount cur ack = some next ∧
        readPages exchange opts left' (page + 1) next items' bytes' (records ++ ack.logRecords) = (out, none) := by
  cases left with
  | zero =>
    obtain rfl := (Prod.mk.inj h).1
    cases hfull
  | succ left =>
    unfold readPages at h
    cases hack : readRange (exchange page) cur with
    | error e => simp [hack] at h
    | ok ack =>
      refine ⟨ack, left, rfl, rfl, ?_⟩
      simp only [hack] at h
      split at h
      · obtain rfl := (Prod.mk.inj h).1
        cases hfull
      split at h
      · obtain rfl := (Prod.mk.inj h).1
        cases hfull
      split at h
      next hlast =>
        obtain rfl := (Prod.mk.inj h).1
        rw [if_pos hlast]
      next hlast =>
        rw [if_neg hlast]
        split at h
        · obtain rfl := (Prod.mk.inj h).1
          cases hfull
        next next hnext => exact ⟨next, _, _, hnext, h⟩

/-- The exchange of each page with the server of a log that does not change; it may also fail on the way. -/
def exchangeWith (lost : Nat → Bool) (objects : ObjectIdentifier → Option TrendLog) (budget : Int) (page : Nat)
    (r : ReadRangeRequest) : Except (Option RangeError) ReadRangeACK :=
  if lost page then .error none
  else
    match Server.readRange objects budget r with
    | .error err => .error (some err)
    | .ok (ack, _) => .ok ack

lemma exchangeWith_ok {lost : Nat → Bool} {objects : ObjectIdentifier → Option TrendLog} {budget : Int}
    {r : ReadRangeRequest} {ack : ReadRangeACK} (h : exchangeWith lost objects budget page r = .ok ack) :
    ∃ payload, Server.readRange objects budget r = .ok (ack, payload) := by
  unfold exchangeWith at h
  obtain ⟨-, h⟩ := Except.check_eq_ok_iff.mp h
  cases hr : Server.readRange objects budget r with
  | error e => simp [hr] at h
  | ok res =>
    simp only [hr, Except.ok.injEq] at h
    exact ⟨res.2, by rw [← h]⟩

section Pages

variable {lost : Nat → Bool} {objects : ObjectIdentifier → Option TrendLog} {budget : Int} {tl : TrendLog}
  {req : ReadRangeRequest} {p m : Nat}

/-- What the runs below share: a request for the buffer of a log on a server whose budget fits any single record. -/
structure Reads (objects : ObjectIdentifier → Option TrendLog) (budget : Int) (tl : TrendLog)
    (req : ReadRangeRequest) : Prop where
  unwrapped : tl.Unwrapped
  object : objects req.object = some tl
  fits : FitsSingle budget tl req

/-- A page of the run is for the same property. -/
structure SameList (cur req : ReadRangeRequest) : Prop where
  object : cur.object = req.object
  property : cur.property = req.property

lemma logRecords_span (cur : ReadRangeRequest) {k : Nat} (hkm : k ≤ m) :
    (buildACK cur (span tl p m) k).logRecords = ((tl.records.drop p).take k).map LogEntry.record := by
  simp [buildACK, span, ← List.map_take, List.take_take, Nat.min_eq_left hkm]

/-- A page ends the run if it reaches the end of the buffer, or if it has all that was selected and that is less than
was asked for. -/
lemma lastPage_span (hwrap : tl.Unwrapped) {k : Nat} (hk : 0 < k) (hkm : k ≤ m) (hp : p + m ≤ tl.records.length) :
    lastPage cur (buildACK cur (span tl p m) k) = true ↔
      p + k = tl.records.length ∨ ((k : Int) < cur.count ∧ k = m) := by
  have hlen := hwrap.length
  have htotal := hwrap.total
  have hmin : min m (tl.records.length - p) = m := by omega
  simp [lastPage, ReadRangeACK.lastItem, ReadRangeACK.moreItems, buildACK, RangeResult.size, span, hmin, hk, hk.ne']
  omega

lemma nextPage_span (hwrap : tl.Unwrapped) (hby : cur.rangeBy = .position ∨ cur.rangeBy = .sequenceNumber)
    {k : Nat} (hk : 0 < k) (hp : p + k < tl.records.length) {pageCount : Int} (hpage : 0 < pageCount)
    (hposition : cur.rangeBy = .position → cur.referenceIndex = p + 1) {next : ReadRangeRequest}
    (h : nextPage pageCount cur (buildACK cur (span tl p m) k) = some next) :
    SameList next cur ∧ Aligned tl (rangeQuery next) (p + k) := by
  have hlen := hwrap.length
  have htotal := hwrap.total
  rcases hby with hby | hby
  · have href := hposition hby
    simp only [nextPage, hby, Option.some.injEq] at h
    subst h
    refine ⟨⟨rfl, rfl⟩, .inl rfl, fun _ => ?_, fun hseq => ?_, hpage⟩
    · simp only [rangeQuery, buildACK, href]
      omega
    · simp [rangeQuery] at hseq
  · simp only [nextPage, hby, Option.some.injEq] at h
    subst h
    refine ⟨⟨rfl, rfl⟩, .inr rfl, fun hpos => ?_, fun _ => ?_, hpage⟩
    · simp [rangeQuery] at hpos
    · simp [rangeQuery, buildACK, span, hk, hby]
      omega

/-- A page of `k` records out of the `m` selected from index `p` on ends the run with the records read so far, or the
run goes on from index `p + k`. -/
lemma readPages_span (hreads : Reads objects budget tl req) (hsame : SameList cur req)
    (hby : cur.rangeBy = .position ∨ cur.rangeBy = .sequenceNumber) (hm : 0 < m) (hp : p + m ≤ tl.records.length)
    (hpage : 0 < opts.pageCount) (hposition : cur.rangeBy = .position → cur.referenceIndex = p + 1)
    (hsel : IsLogBuffer cur.property → tl.readRange cur.property (rangeQuery cur) = .ok (span tl p m))
    (h : readPages (exchangeWith lost objects budget) opts left page cur items bytes records = (out, none))
    (hfull : out.isPartial = false) :
    ∃ k, 0 < k ∧ k ≤ m ∧ (k < m ↔ exceeds budget (buildACK cur (span tl p m) m) = true) ∧
      if p + k = tl.records.length ∨ ((k : Int) < cur.count ∧ k = m) then
        out.logRecords = records ++ ((tl.records.drop p).take k).map LogEntry.record
      else
        ∃ left' next items' bytes', left = left' + 1 ∧ SameList next req ∧ Aligned tl (rangeQuery next) (p + k) ∧
          readPages (exchangeWith lost objects budget) opts left' (page + 1) next items' bytes'
            (records ++ ((tl.records.drop p).take k).map LogEntry.record) = (out, none) := by
  obtain ⟨ack, left', rfl, hack, hstep⟩ := readPages_full h hfull
  obtain ⟨payload, hserved⟩ := exchangeWith_ok (readRange_ok hack)
  have hobj : objects cur.object = some tl := hsame.object ▸ hreads.object
  obtain ⟨sel, hsome⟩ := readRange_selects hobj hserved
  obtain ⟨k, rfl, hk, hkm, hexceeds⟩ := readRange_page hobj hreads.fits hsame.object hsame.property hreads.unwrapped hm
    hp (hsel (isLogBuffer_of_readRange hsome)) hserved
  refine ⟨k, hk, hkm, hexceeds, ?_⟩
  rw [logRecords_span cur hkm] at hstep
  by_cases hlast : p + k = tl.records.length ∨ ((k : Int) < cur.count ∧ k = m)
  · rw [if_pos hlast]
    rwa [if_pos ((lastPage_span hreads.unwrapped hk hkm hp).mpr hlast)] at hstep
  · rw [if_neg hlast]
    rw [if_neg (mt (lastPage_span hreads.unwrapped hk hkm hp).mp hlast)] at hstep
    obtain ⟨next, items', bytes', hnext, hrest⟩ := hstep
    obtain ⟨hlist, haligned⟩ := nextPage_span hreads.unwrapped hby hk (by omega) hpage hposition hnext
    exact ⟨left', next, items', bytes', rfl,
      ⟨hlist.object.trans hsame.object, hlist.property.trans hsame.property⟩, haligned, hrest⟩

lemma readPages_aligned (hreads : Reads objects budget tl req) (hpage : 0 < opts.pageCount) :
    ∀ {left page p items bytes : Nat} {cur : ReadRangeRequest} {records : List LogRecord}, SameList cur req →
      Aligned tl (rangeQuery cur) p → p < tl.records.length →
      readPages (exchangeWith lost objects budget) opts left page cur items bytes records = (out, none) →
      out.isPartial = false → out.logRecords = records ++ (tl.records.drop p).map LogEntry.record := by
  intro left
  induction left with
  | zero =>
    intro page p items bytes cur records hsame haligned hp h hfull
    obtain ⟨-, left', hleft, -⟩ := readPages_full h hfull
    omega
  | succ left ih =>
    intro page p items bytes cur records hsame haligned hp h hfull
    have hcount : 0 < cur.count := haligned.count
    have hsel : IsLogBuffer cur.property → tl.readRange cur.property (rangeQuery cur) =
        .ok (span tl p (min cur.count.toNat (tl.records.length - p))) :=
      fun hprop => readRange_aligned hreads.unwrapped hprop haligned hp
    obtain ⟨k, hk, hkm, -, hstep⟩ := readPages_span hreads hsame haligned.by_index (by omega) (by omega) hpage
      haligned.position hsel h hfull
    by_cases hlast : p + k = tl.records.length ∨
        ((k : Int) < cur.count ∧ k = min cur.count.toNat (tl.records.length - p))
    · rw [if_pos hlast] at hstep
      rw [hstep, List.take_of_length_le (by simp; omega)]
    · rw [if_neg hlast] at hstep
      obtain ⟨left', next, items', bytes', hleft, hlist, hnext, hrest⟩ := hstep
      obtain rfl : left = left' := by omega
      rw [ih hlist hnext (by omega) hrest hfull, List.append_assoc, ← List.map_append, ← List.drop_drop,
        List.take_append_drop]

lemma readPages_empty (hreads : Reads objects budget tl req) (hsame : SameList cur req)
    (hsel : IsLogBuffer cur.property →
      tl.readRange cur.property (rangeQuery cur) = .ok { total := tl.records.length, sequenced := true })
    (h : readPages (exchangeWith lost objects budget) opts left page cur items bytes records = (out, none))
    (hfull : out.isPartial = false) : out.logRecords = records := by
  obtain ⟨ack, left', rfl, hack, hstep⟩ := readPages_full h hfull
  obtain ⟨payload, hserved⟩ := exchangeWith_ok (readRange_ok hack)
  have hobj : objects cur.object = some tl := hsame.object ▸ hreads.object
  obtain ⟨sel, hsome⟩ := readRange_selects hobj hserved
  obtain ⟨k, rfl, -, hk⟩ := rangeReply_answer (readRange_answer hobj (hsel (isLogBuffer_of_readRange hsome)) hserved)
  have hb := Search.search_boundary 1 fun k => exceeds budget
    (buildACK cur { total := tl.records.length, sequenced := true } k)
  have hk0 : k = 0 := by
    have := hb.le
    split at hk <;> simp [RangeResult.size] at hk <;> omega
  subst hk0
  rw [if_pos (by simp [lastPage, buildACK])] at hstep
  simpa [buildACK] using hstep

lemma readPages_from (hreads : Reads objects budget tl req) (hpage : 0 < opts.pageCount) (hsame : SameList cur req)
    (haligned : Aligned tl (rangeQuery cur) p)
    (h : readPages (exchangeWith lost objects budget) opts left page cur items bytes records = (out, none))
    (hfull : out.isPartial = false) : out.logRecords = records ++ (tl.records.drop p).map LogEntry.record := by
  by_cases hp : p < tl.records.length
  · exact readPages_aligned hreads hpage hsame haligned hp h hfull
  · have hempty := readPages_empty hreads hsame
      (fun hprop => readRange_beyond hreads.unwrapped hprop haligned (not_lt.mp hp)) h hfull
    rw [hempty, List.drop_eq_nil_of_le (not_lt.mp hp), List.map_nil, List.append_nil]

/-- From a sequence number before the oldest record the pages are the whole buffer exactly if the first page reaches
the newest record, or reaches the oldest and is cut by the budget. -/
lemma readPages_clipped (hreads : Reads objects budget tl req) (hpage : 0 < opts.pageCount) (hsame : SameList cur req)
    (hby : cur.rangeBy = .sequenceNumber) (hcount : 0 < cur.count) (hbefore : cur.referenceIndex < tl.oldest)
    (h : readPages (exchangeWith lost objects budget) opts left page cur items bytes [] = (out, none))
    (hfull : out.isPartial = false) :
    out.logRecords = tl.records.map LogEntry.record ↔
      tl.reached (rangeQuery cur) = tl.records.length ∨ (0 < tl.reached (rangeQuery cur) ∧
        exceeds budget (buildACK cur (span tl 0 (tl.reached (rangeQuery cur))) (tl.reached (rangeQuery cur))) = true) := by
  have hle : tl.reached (rangeQuery cur) ≤ tl.records.length := Nat.min_le_right ..
  by_cases hreach : tl.reached (rangeQuery cur) = 0
  · have hempty := readPages_empty hreads hsame
      (fun hprop => readRange_before hreads.unwrapped hprop hby hcount hreach) h hfull
    rw [hempty, hreach, eq_comm, List.map_eq_nil_iff, ← List.length_eq_zero_iff]
    omega
  have hshort : tl.reached (rangeQuery cur) < tl.records.length →
      ((tl.reached (rangeQuery cur) : Nat) : Int) < cur.count := by
    unfold TrendLog.reached rangeQuery
    dsimp only
    omega
  obtain ⟨k, hk, hkm, hexceeds, hstep⟩ := readPages_span hreads hsame (.inr hby) (Nat.pos_of_ne_zero hreach)
    (by omega) hpage (fun hpos => by simp [hby] at hpos)
    (fun hprop => readRange_clipped hreads.unwrapped hprop hby hcount hbefore (Nat.pos_of_ne_zero hreach)) h hfull
  generalize tl.reached (rangeQuery cur) = m at *
  rw [← hexceeds]
  by_cases hlast : 0 + k = tl.records.length ∨ ((k : Int) < cur.count ∧ k = m)
  · rw [if_pos hlast] at hstep
    rw [hstep, List.nil_append, List.drop_zero]
    have hall : (tl.records.take k).map LogEntry.record = tl.records.map LogEntry.record ↔ tl.records.length ≤ k := by
      constructor
      · intro heq
        have := congrArg List.length heq
        simpa using this
      · intro hlen
        rw [List.take_of_length_le hlen]
    rw [hall]
    omega
  · rw [if_neg hlast] at hstep
    obtain ⟨left', next, items', bytes', -, hlist, hnext, hrest⟩ := hstep
    rw [readPages_from hreads hpage hlist hnext hrest hfull]
    refine iff_of_true ?_ (by omega)
    rw [List.nil_append, Nat.zero_add, List.drop_zero, ← List.map_append, List.take_append_drop]

end Pages

def recordsFrom (tl : TrendLog) (req : ReadRangeRequest) : List LogRecord :=
  match req.rangeBy with
  | .position => (tl.records.drop (req.referenceIndex - 1)).map LogEntry.record
  | _ => (tl.records.filter fun e => req.referenceIndex ≤ e.seq).map LogEntry.record

lemma filter_seq {tl : TrendLog} (h : tl.Unwrapped) (ref : Nat) :
    (tl.records.filter fun e => ref ≤ e.seq) = tl.records.drop (ref - tl.oldest) := by
  have hlen := h.length
  conv_lhs => rw [← List.take_append_drop (ref - tl.oldest) tl.records, List.filter_append]
  have htake : (tl.records.take (ref - tl.oldest)).filter (fun e => ref ≤ e.seq) = [] := by
    rw [List.filter_eq_nil_iff]
    intro e he
    obtain ⟨i, hi, he⟩ := List.mem_take_iff_getElem.mp he
    have := h.seq i e (he ▸ List.getElem?_eq_getElem _)
    unfold TrendLog.oldest at hi
    rw [decide_eq_true_iff]
    omega
  have hdrop : (tl.records.drop (ref - tl.oldest)).filter (fun e => ref ≤ e.seq) =
      tl.records.drop (ref - tl.oldest) := by
    rw [List.filter_eq_self]
    intro e he
    obtain ⟨i, hi⟩ := List.mem_iff_getElem?.mp he
    rw [List.getElem?_drop] at hi
    have := h.seq _ e hi
    unfold TrendLog.oldest at this
    rw [decide_eq_true_iff]
    omega
  rw [htake, hdrop, List.nil_append]

lemma firstPage_sameList (req : ReadRangeRequest) (pageCount : Int) : SameList (firstPage req pageCount) req := by
  constructor <;> (unfold firstPage; split <;> rfl)

@[simp] lemma firstPage_rangeBy (req : ReadRangeRequest) (pageCount : Int) :
    (firstPage req pageCount).rangeBy = req.rangeBy := by
  unfold firstPage
  split <;> rfl

@[simp] lemma firstPage_referenceIndex (req : ReadRangeRequest) (pageCount : Int) :
    (firstPage req pageCount).referenceIndex = req.referenceIndex := by
  unfold firstPage
  split <;> rfl

lemma firstPage_count_pos {req : ReadRangeRequest} {pageCount : Int} (hcount : 0 ≤ req.count) (hpage : 0 < pageCount) :
    0 < (firstPage req pageCount).count := by
  unfold firstPage
  split
  · exact hpage
  · omega

/-- Whether a run tells the end of the log from the start of what it keeps: it reads by position, or begins at a record
that is kept or still to come, or its first page reaches the newest record, or reaches the oldest and is cut by the
budget. -/
def StartsKept (tl : TrendLog) (budget : Int) (first : ReadRangeRequest) : Prop :=
  first.rangeBy = .position ∨ tl.oldest ≤ first.referenceIndex ∨
    tl.reached (rangeQuery first) = tl.records.length ∨ (0 < tl.reached (rangeQuery first) ∧
      exceeds budget (buildACK first (span tl 0 (tl.reached (rangeQuery first))) (tl.reached (rangeQuery first))) = true)

/-- A run that ends without an error and is not partial has read the records from the reference to the newest, each once
and in order, exactly if it does not begin before the oldest record with a page that is clipped at its start and
fits. -/
theorem readRangeAll_complete {lost : Nat → Bool} {objects : ObjectIdentifier → Option TrendLog} {budget : Int}
    {tl : TrendLog} {req : ReadRangeRequest} {opts : ReadRangePageOptions} {out : ReadRangePageResult}
    (hreads : Reads objects budget tl req) (hby : req.rangeBy = .position ∨ req.rangeBy = .sequenceNumber)
    (href : 1 ≤ req.referenceIndex) (hcount : 0 ≤ req.count) (hpage : 0 < opts.pageCount)
    (hrun : readRangeAll (exchangeWith lost objects budget) req opts = (out, none)) (hfull : out.isPartial = false) :
    out.logRecords = recordsFrom tl req ↔ StartsKept tl budget (firstPage req opts.pageCount) := by
  have hlen := hreads.unwrapped.length
  have hfirst := firstPage_count_pos hcount hpage
  have hsame := firstPage_sameList req opts.pageCount
  have hnormal : opts.normalize.pageCount = opts.pageCount := if_neg (not_le.mpr hpage)
  unfold readRangeAll at hrun
  rw [if_neg (by tauto), hnormal] at hrun
  rw [← hnormal] at hpage
  rcases hby with hby | hby
  · have haligned : Aligned tl (rangeQuery (firstPage req opts.pageCount)) (req.referenceIndex - 1) := by
      refine ⟨.inl ?_, fun _ => ?_, fun hseq => ?_, hfirst⟩
      · simpa [rangeQuery] using hby
      · simp [rangeQuery]
        omega
      · simp [rangeQuery, hby] at hseq
    refine iff_of_true ?_ (.inl (by simpa using hby))
    rw [readPages_from hreads hpage hsame haligned hrun hfull]
    simp [recordsFrom, hby]
  · have hexpected : recordsFrom tl req = (tl.records.drop (req.referenceIndex - tl.oldest)).map LogEntry.record := by
      simp only [recordsFrom, hby, filter_seq hreads.unwrapped]
    rw [hexpected]
    by_cases hkept : tl.oldest ≤ req.referenceIndex
    · have haligned : Aligned tl (rangeQuery (firstPage req opts.pageCount)) (req.referenceIndex - tl.oldest) := by
        refine ⟨.inr ?_, fun hpos => ?_, fun _ => ?_, hfirst⟩
        · simpa [rangeQuery] using hby
        · simp [rangeQuery, hby] at hpos
        · unfold TrendLog.oldest at *
          simp [rangeQuery]
          omega
      refine iff_of_true ?_ (.inr (.inl (by simpa using hkept)))
      rw [readPages_from hreads hpage hsame haligned hrun hfull, List.nil_append]
    · rw [Nat.sub_eq_zero_of_le (not_le.mp hkept).le, List.drop_zero,
        readPages_clipped hreads hpage hsame (by simpa using hby) hfirst (by simpa using hkept) hrun hfull]
      simp [StartsKept, hby, hkept]

def sampleLog : TrendLog :=
  [1, 2, 3, 4, 5].foldl
    (fun tl v => tl.log 0 ⟨⟨124, 1, 1, 1⟩, ⟨0, 0, 0, 0⟩⟩ (.unsigned v) none) { bufferSize := 3 }

def sampleRequest (referenceIndex : Nat) (count : Int) : ReadRangeRequest where
  object := ⟨20, 1⟩
  property := ⟨propertyLogBuffer, none⟩
  rangeBy := .sequenceNumber
  referenceIndex := referenceIndex
  count := count

def sampleRun (referenceIndex : Nat) (count : Int) : ReadRangePageResult × Option (ReadRangeError (Option RangeError)) :=
  readRangeAll (exchangeWith (fun _ => false) (fun _ => some sampleLog) 100) (sampleRequest referenceIndex count)
    { pageCount := 2 }

lemma sampleLog_unwrapped : sampleLog.Unwrapped := by
  have hempty : ({ bufferSize := 3 } : TrendLog).Unwrapped := ⟨fun i e h => by simp at h, le_rfl, by decide⟩
  have hlogged := (hempty.log (by decide +kernel) 0 ⟨⟨124, 1, 1, 1⟩, ⟨0, 0, 0, 0⟩⟩ (.unsigned 1) none).log
    (by decide +kernel) 0 ⟨⟨124, 1, 1, 1⟩, ⟨0, 0, 0, 0⟩⟩ (.unsigned 2) none
  have hlogged := (hlogged.log (by decide +kernel) 0 ⟨⟨124, 1, 1, 1⟩, ⟨0, 0, 0, 0⟩⟩ (.unsigned 3) none).log
    (by decide +kernel) 0 ⟨⟨124, 1, 1, 1⟩, ⟨0, 0, 0, 0⟩⟩ (.unsigned 4) none
  exact hlogged.log (by decide +kernel) 0 ⟨⟨124, 1, 1, 1⟩, ⟨0, 0, 0, 0⟩⟩ (.unsigned 5) none

lemma sample_reads (referenceIndex : Nat) (count : Int) :
    Reads (fun _ => some sampleLog) 100 sampleLog (sampleRequest referenceIndex count) where
  unwrapped := sampleLog_unwrapped
  object := rfl
  fits := (by decide +kernel : FitsSingle 100 sampleLog (sampleRequest 1 4))

lemma sampleRun_eq {referenceIndex : Nat} {count : Int} (h : (sampleRun referenceIndex count).2.isNone) :
    sampleRun referenceIndex count = ((sampleRun referenceIndex count).1, none) :=
  Prod.ext rfl (Option.isNone_iff_eq_none.mp h)

/-- From the oldest record of the sample log on. -/
theorem readRangeAll_sample : (sampleRun 3 4).1.logRecords = recordsFrom sampleLog (sampleRequest 3 4) :=
  (readRangeAll_complete (sample_reads 3 4) (.inr rfl) (by decide) (by decide) (by decide)
    (sampleRun_eq (by decide +kernel)) (by decide +kernel)).mpr (.inr (.inl (by decide +kernel)))

/-- From sequence number 1, which the log does not keep any more: the page of four is clipped to the records 3 and 4,
and the run ends without record 5. -/
theorem readRangeAll_truncated :
    ∃ (objects : ObjectIdentifier → Option TrendLog) (budget : Int) (tl : TrendLog) (req : ReadRangeRequest)
      (opts : ReadRangePageOptions) (out : ReadRangePageResult),
      Reads objects budget tl req ∧ req.rangeBy = .sequenceNumber ∧ 1 ≤ req.referenceIndex ∧ 0 ≤ req.count ∧
      0 < opts.pageCount ∧
      readRangeAll (exchangeWith (fun _ => false) objects budget) req opts = (out, none) ∧ out.isPartial = false ∧
      out.logRecords.length = 2 ∧ (recordsFrom tl req).length = 3 :=
  ⟨_, 100, sampleLog, sampleRequest 1 4, { pageCount := 2 }, (sampleRun 1 4).1, sample_reads 1 4, rfl, by decide,
    by decide, by decide, sampleRun_eq (by decide +kernel), by decide +kernel, by decide +kernel, by decide +kernel⟩

end Client

end GoBacnet
