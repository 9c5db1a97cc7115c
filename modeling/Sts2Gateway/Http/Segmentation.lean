/-
Messages under different ways of splitting a stream into reads.

* `Surplus`: bytes follow a declared body that is shorter than one buffer;
* `settle_eq_of_not_surplus`: without such bytes the answer depends on the stream only;
* `trickle`, `burst`: the reads that leave such bytes alone, and those that take one of them
  along with the header;
* `framing_independent_iff`: **the readers answer alike for every two ways of splitting exactly
  when there are no such bytes**;
* `surplus_answered_differently`: a stream that is answered in two ways.
-/
import Mathlib.Tactic
import Sts2Gateway.Http.Messages

namespace Sts2Gateway.Http

open Procedure Utf8

/-! ### Streams without surplus -/

section Streams

variable {ε η : Type} {framing : Framing ε η}

/-- A header that is accepted, with a body that ends before the stream does, and so early that
one read can go from the header past it. -/
def Surplus (framing : Framing ε η) (whole : List UInt8) : Prop :=
  ∃ headerEnd info contentLength, findHeaderEnd whole = some headerEnd ∧
    headerEnd + 4 ≤ maxHeaderBytes ∧
    framing.head (whole.take headerEnd) = .ok (info, contentLength) ∧
    contentLength + 2 ≤ bufferBytes ∧ headerEnd + 4 + contentLength < whole.length

/-- Without surplus it does not matter how many bytes were taken along with the header. -/
lemma settle_eq_of_not_surplus {whole : List UInt8} (h : ¬ Surplus framing whole)
    {first second : ℕ} (hfirst : Buffered whole bufferBytes first)
    (hsecond : Buffered whole bufferBytes second) :
    settle framing whole first = settle framing whole second := by
  rw [settle, settle]
  cases hend : findHeaderEnd whole with
  | none => rfl
  | some headerEnd =>
    dsimp only
    split_ifs with hfits
    · rfl
    · cases hhead : framing.head (whole.take headerEnd) with
      | error refusal => rfl
      | ok result =>
        obtain ⟨info, contentLength⟩ := result
        have hnone : ∀ buffered, Buffered whole bufferBytes buffered →
            ¬ buffered - (headerEnd + 4) > contentLength := by
          intro buffered hbuffered hsurplus
          have hbounded := hbuffered.bounded
          have hupper := hbuffered.upper headerEnd hend (not_lt.mp hfits)
          refine h ⟨headerEnd, info, contentLength, hend, not_lt.mp hfits, hhead, ?_, ?_⟩
          · omega
          · omega
        change (refuse (first - (headerEnd + 4) > contentLength) framing.surplus >>= fun _ => _) =
          (refuse (second - (headerEnd + 4) > contentLength) framing.surplus >>= fun _ => _)
        rw [refuse, if_neg (hnone first hfirst)]
        change _ = (refuse (second - (headerEnd + 4) > contentLength) framing.surplus >>=
          fun _ => _)
        rw [refuse.eq_def (second - (headerEnd + 4) > contentLength), if_neg (hnone second hsecond)]

/-! ### Streams with surplus -/

/-- One byte at a time. -/
def trickle (whole : List UInt8) : Source where
  rest := whole
  ready _ := 0
  waits _ := []

/-- One byte at a time, and then a full buffer each time. -/
def burst (whole : List UInt8) (quiet : ℕ) : Source where
  rest := whole
  ready n := if n < quiet then 0 else bufferBytes
  waits _ := []

lemma calm_trickle (whole : List UInt8) : (trickle whole).Calm := fun _ _ h => absurd h (by simp [trickle])

lemma calm_burst (whole : List UInt8) (quiet : ℕ) : (burst whole quiet).Calm :=
  fun _ _ h => absurd h (by simp [burst])

variable {reader : Reader}

/-- Byte by byte no more than the header is taken, and what follows the body is not read. -/
lemma readMessage_trickle (hplain : Plain reader) {whole : List UInt8}
    {headerEnd contentLength : ℕ} {info : η} (hend : findHeaderEnd whole = some headerEnd)
    (hfits : headerEnd + 4 ≤ maxHeaderBytes)
    (hhead : framing.head (whole.take headerEnd) = .ok (info, contentLength))
    (hlength : headerEnd + 4 + contentLength ≤ whole.length) :
    readMessage framing reader (trickle whole) =
      .ok (info, (whole.drop (headerEnd + 4)).take contentLength) := by
  have hstep : ∀ n, min bufferBytes ((trickle whole).ready n + 1) ≤ 1 := fun _ => Nat.min_le_right _ _
  obtain ⟨buffered, hread, hbuffered⟩ := readMessage_eq framing hplain
    (calm_trickle whole) hstep
  have hlower := hbuffered.lower headerEnd hend hfits
  have hupper := hbuffered.upper headerEnd hend hfits
  have hnone : ¬ buffered - (headerEnd + 4) > contentLength := by omega
  have henough : ¬ (whole.drop (headerEnd + 4)).length < contentLength := by
    rw [List.length_drop]
    omega
  have hwhole : (trickle whole).rest = whole := rfl
  rw [hread, hwhole, settle, hend]
  dsimp only
  rw [if_neg (by omega), hhead]
  change (refuse (buffered - (headerEnd + 4) > contentLength) framing.surplus >>= fun _ => _) = _
  rw [refuse, if_neg hnone]
  change (refuse ((whole.drop (headerEnd + 4)).length < contentLength) framing.cutOff >>=
    fun _ => _) = _
  rw [refuse, if_neg henough]
  rfl

/-- When the byte that ends a header comes with a full buffer, all of it is taken along; by
induction on the bytes that come alone. -/
lemma fillHeader_burst (hplain : Plain reader) {headerEnd quiet room : ℕ}
    {bytes whole : List UInt8} {source : Source} (hcalm : source.Calm)
    (hwhole : bytes ++ source.rest = whole) (hend : findHeaderEnd whole = some headerEnd)
    (hfits : headerEnd + 4 ≤ maxHeaderBytes) (hroom : maxHeaderBytes ≤ bytes.length + room)
    (hlength : bytes.length + quiet = headerEnd + 3) (halone : ∀ n < quiet, source.ready n = 0)
    (hburst : source.ready quiet = bufferBytes) :
    ∃ buffered later, fillHeader framing reader room bytes source =
        .ok (headerEnd, buffered, later) ∧ buffered ++ later.rest = whole ∧ later.Calm ∧
      buffered.length = min whole.length (headerEnd + 3 + bufferBytes) := by
  have hbuffer : bufferBytes = 2048 := rfl
  have hbound := findHeaderEnd_bound hend
  induction quiet generalizing bytes source room with
  | zero =>
    obtain ⟨hnone, hrest⟩ := findHeaderEnd_of_short (hwhole ▸ hend) (by omega)
    obtain ⟨room, rfl⟩ : ∃ next, room = next + 1 := Nat.exists_eq_add_one.mpr (by omega)
    have hcount : source.count bufferBytes = bufferBytes := by
      rw [Source.count, hburst]
      omega
    have hnext : (bytes ++ source.rest.take bufferBytes) ++ (source.after bufferBytes).rest =
        whole := by
      rw [List.append_assoc, source.take_append_rest, hwhole]
    have htotal : whole.length = bytes.length + source.rest.length := by
      rw [← hwhole, List.length_append]
    have hbytes : (bytes ++ source.rest.take bufferBytes).length =
        min whole.length (headerEnd + 3 + bufferBytes) := by
      rw [List.length_append, List.length_take]
      omega
    have hhere := findHeaderEnd_of_append (hnext.symm ▸ hend) (by omega)
    refine ⟨_, _, ?_, hnext, hcalm.after _, hbytes⟩
    rw [fillHeader_step framing hplain hcalm hnone (by omega) hrest, hcount]
    exact fillHeader_found framing _ hhere hfits
  | succ quiet ih =>
    obtain ⟨hnone, hrest⟩ := findHeaderEnd_of_short (hwhole ▸ hend) (by omega)
    obtain ⟨room, rfl⟩ : ∃ next, room = next + 1 := Nat.exists_eq_add_one.mpr (by omega)
    have hcount : source.count bufferBytes = 1 := by
      rw [Source.count, halone 0 (Nat.succ_pos _)]
      rfl
    have hone : (source.rest.take 1).length = 1 := by
      have := List.length_pos_iff.mpr hrest
      rw [List.length_take]
      omega
    rw [fillHeader_step framing hplain hcalm hnone (by omega) hrest, hcount]
    refine ih (hcalm.after 1) ?_ ?_ ?_ (fun n hn => halone (n + 1) (by omega)) hburst
    · rw [List.append_assoc, source.take_append_rest, hwhole]
    · rw [List.length_append]
      omega
    · rw [List.length_append]
      omega

/-- A burst at the end of the header takes surplus along with it, and is refused. -/
lemma readMessage_burst (hplain : Plain reader) {whole : List UInt8}
    {headerEnd contentLength : ℕ} {info : η} (hend : findHeaderEnd whole = some headerEnd)
    (hfits : headerEnd + 4 ≤ maxHeaderBytes)
    (hhead : framing.head (whole.take headerEnd) = .ok (info, contentLength))
    (hshort : contentLength + 2 ≤ bufferBytes)
    (hlength : headerEnd + 4 + contentLength < whole.length) :
    readMessage framing reader (burst whole (headerEnd + 3)) = .error framing.surplus := by
  have hrest : [] ++ (burst whole (headerEnd + 3)).rest = whole := List.nil_append whole
  have hroom : maxHeaderBytes ≤ ([] : List UInt8).length + maxHeaderBytes := Nat.le_add_left _ _
  obtain ⟨bytes, later, hfill, hwhole, hlater, hbytes⟩ := fillHeader_burst hplain
    (calm_burst whole (headerEnd + 3)) hrest hend hfits hroom (Nat.zero_add _)
    (fun n hn => if_pos hn) (if_neg (lt_irrefl _))
  have hread := readMessage_of_fillHeader hplain hfill hwhole hlater (by omega) hend hfits
  have hsurplus : bytes.length - (headerEnd + 4) > contentLength := by omega
  rw [hread, settle, hend]
  dsimp only
  rw [if_neg (by omega), hhead]
  change (refuse (bytes.length - (headerEnd + 4) > contentLength) framing.surplus >>= fun _ => _) = _
  rw [refuse, if_pos hsurplus]
  rfl

/-- Two plain readers answer alike on a stream without surplus. -/
lemma readMessage_eq_of_not_surplus {other : Reader} (hplain : Plain reader) (hother : Plain other)
    {first second : Source} (hsame : first.rest = second.rest) (hfirst : first.Calm)
    (hsecond : second.Calm) (h : ¬ Surplus framing second.rest) :
    readMessage framing reader first = readMessage framing other second := by
  obtain ⟨buffered, hread, hbuffered⟩ := readMessage_eq framing hplain hfirst
    fun _ => Nat.min_le_left bufferBytes _
  obtain ⟨buffered', hread', hbuffered'⟩ := readMessage_eq framing hother hsecond
    fun _ => Nat.min_le_left bufferBytes _
  rw [hsame] at hread hbuffered
  rw [hread, hread']
  exact settle_eq_of_not_surplus h hbuffered hbuffered'

/-- A stream with surplus is answered in two ways. -/
lemma readMessage_ne_of_surplus (hplain : Plain reader) {whole : List UInt8}
    (h : Surplus framing whole) : ∃ result headerEnd,
      readMessage framing reader (trickle whole) = .ok result ∧
      readMessage framing reader (burst whole headerEnd) = .error framing.surplus := by
  obtain ⟨headerEnd, info, contentLength, hend, hfits, hhead, hshort, hlength⟩ := h
  exact ⟨_, _, readMessage_trickle hplain hend hfits hhead hlength.le,
    readMessage_burst hplain hend hfits hhead hshort hlength⟩

end Streams

/-! ### The three readers -/

/-- The three readers answer alike for every two ways of splitting the stream into reads, when
nothing expires and nothing is cancelled. -/
def Independent (whole : List UInt8) (maxResponseBytes : ℕ) : Prop :=
  ∀ first second : Source, first.rest = whole → second.rest = whole → first.Calm → second.Calm →
    readRequest first = readRequest second ∧
    readResponseWithLimit first maxResponseBytes =
      readResponseWithLimit second maxResponseBytes ∧
    readResponseWithLimitCancelable first maxResponseBytes =
      readResponseWithLimit second maxResponseBytes

lemma not_independent_of_request_surplus {whole : List UInt8} (maxResponseBytes : ℕ)
    (h : Surplus requestFraming whole) : ¬ Independent whole maxResponseBytes := by
  intro hindependent
  obtain ⟨result, headerEnd, htrickle, hburst⟩ := readMessage_ne_of_surplus plain_read h
  have hsame := (hindependent (trickle whole) (burst whole headerEnd) rfl rfl (calm_trickle whole)
    (calm_burst whole headerEnd)).1
  rw [readRequest, htrickle, readRequest, hburst] at hsame
  cases hsame

lemma not_independent_of_response_surplus {whole : List UInt8} {maxResponseBytes : ℕ}
    (h : Surplus (responseFraming maxResponseBytes) whole) :
    ¬ Independent whole maxResponseBytes := by
  intro hindependent
  obtain ⟨result, headerEnd, htrickle, hburst⟩ := readMessage_ne_of_surplus plain_read h
  have hsame := (hindependent (trickle whole) (burst whole headerEnd) rfl rfl (calm_trickle whole)
    (calm_burst whole headerEnd)).2.1
  rw [readResponseWithLimit, htrickle, readResponseWithLimit, hburst] at hsame
  cases hsame

/-- **Framing depends on the bytes only** exactly for the streams without surplus. -/
theorem framing_independent_iff (whole : List UInt8) (maxResponseBytes : ℕ) :
    Independent whole maxResponseBytes ↔
      ¬ Surplus requestFraming whole ∧ ¬ Surplus (responseFraming maxResponseBytes) whole := by
  constructor
  · intro h
    constructor
    · exact fun hsurplus => not_independent_of_request_surplus maxResponseBytes hsurplus h
    · exact fun hsurplus => not_independent_of_response_surplus hsurplus h
  · rintro ⟨hrequest, hresponse⟩ first second hfirst rfl hcalm hcalm'
    refine ⟨?_, ?_, ?_⟩
    · rw [readRequest, readMessage_eq_of_not_surplus plain_read plain_read hfirst hcalm hcalm'
        hrequest]
      rfl
    · rw [readResponseWithLimit, readMessage_eq_of_not_surplus plain_read plain_read hfirst hcalm
        hcalm' hresponse]
      rfl
    · rw [readResponseWithLimitCancelable, readMessage_eq_of_not_surplus
        plain_readWithCancellation plain_read hfirst hcalm hcalm' hresponse]
      rfl

/-- A request without a body, and one byte more: refused when they come together, and taken when
the byte comes alone. -/
theorem surplus_answered_differently :
    ¬ ∀ whole maxResponseBytes, Independent whole maxResponseBytes := by
  intro h
  have hends : findHeaderEnd (bytesOf "GET / HTTP/1.1\r\n\r\nX".toList) = some 14 := by
    decide +kernel
  have hheader : (bytesOf "GET / HTTP/1.1\r\n\r\nX".toList).take 14 =
      bytesOf "GET / HTTP/1.1".toList := by
    decide +kernel
  have hread : requestHead (bytesOf "GET / HTTP/1.1".toList) =
      .ok ({ method := "GET", path := "/", headers := ∅ }, 0) := by
    rw [requestHead, decode_bytesOf]
    rfl
  refine not_independent_of_request_surplus maxResponseBytes
    ⟨14, _, 0, hends, by decide, (congrArg requestHead hheader).trans hread, by decide, ?_⟩ (h _ _)
  decide +kernel

end Sts2Gateway.Http
