/-
The loops that read a message (`http.rs`, `http_response.rs`, `http_cancel.rs`).

* `Source`: the bytes of a connection, and how they come in;
* `read`, `readWithCancellation`: one read, and one that polls for a cancellation;
* `Framing`, `readMessage`: **the two loops of a reader**, over the header and over the body;
* `fillHeader_of_end`, `fillHeader_of_none`, `fillBody_eq`: what the loops do on a source that is
  not cut short;
* `readMessage_eq`: what they make of the bytes and of the number that the header took along.

The three readers of the source are copies of these loops, with their own errors and headers.
-/
import Mathlib.Tactic
import Sts2Gateway.Library.Procedure

namespace Sts2Gateway.Http

open Procedure

def maxHeaderBytes : ℕ := 8192
def maxBodyBytes : ℕ := 16384
def maxResponseBytes : ℕ := 131072

/-- The buffer of one read. -/
def bufferBytes : ℕ := 2048

inductive ReadError where
  | cancelled
  | timeout
  | malformed
  | oversized
  | unavailable
deriving DecidableEq, Repr

/-! ### The connection -/

/-- What happens while a read waits for bytes. -/
inductive Wait where
  | idle
  | cancelled
  | expired
deriving DecidableEq, Repr

/-- The bytes still to come, how many more than one of them are at hand at each read, and what
happens before it. -/
structure Source where
  rest : List UInt8
  ready : ℕ → ℕ
  waits : ℕ → List Wait

namespace Source

variable (source : Source)

/-- The source after a read of some bytes. -/
def after (count : ℕ) : Source where
  rest := source.rest.drop count
  ready n := source.ready (n + 1)
  waits n := source.waits (n + 1)

/-- How many bytes the next read asks for and finds. -/
def count (capacity : ℕ) : ℕ := min capacity (source.ready 0 + 1)

/-- Nothing but polls that find no bytes yet. -/
def Calm : Prop := ∀ n, ∀ wait ∈ source.waits n, wait = .idle

variable {source}

lemma Calm.after (h : source.Calm) (count : ℕ) : (source.after count).Calm := fun n => h (n + 1)

end Source

/-- What a read returns, and the source after it; no bytes at all are the end of the stream. -/
abbrev Reader := Source → ℕ → Except ReadError (List UInt8 × Source)

/-- A read that waits until the deadline. -/
def read : Reader := fun source capacity =>
  if .expired ∈ source.waits 0 then .error .timeout
  else .ok (source.rest.take (source.count capacity), source.after (source.count capacity))

def poll : List Wait → Except ReadError Unit
  | [] => .ok ()
  | .idle :: waits => poll waits
  | .cancelled :: _ => .error .cancelled
  | .expired :: _ => .error .timeout

def readWithCancellation : Reader := fun source capacity => do
  poll (source.waits 0)
  return (source.rest.take (source.count capacity), source.after (source.count capacity))

/-- A reader that returns what is at hand when nothing else happens. -/
def Plain (reader : Reader) : Prop :=
  ∀ source capacity, source.Calm → reader source capacity =
    .ok (source.rest.take (source.count capacity), source.after (source.count capacity))

lemma plain_read : Plain read := by
  intro source capacity hcalm
  have hnone : Wait.expired ∉ source.waits 0 := by
    intro hmem
    have := hcalm 0 _ hmem
    cases this
  rw [read, if_neg hnone]

lemma plain_readWithCancellation : Plain readWithCancellation := by
  intro source capacity hcalm
  have hpoll : ∀ waits : List Wait, (∀ wait ∈ waits, wait = .idle) → poll waits = .ok () := by
    intro waits
    induction waits with
    | nil => intro _; rfl
    | cons wait waits ih =>
      intro hall
      obtain ⟨rfl, hrest⟩ := List.forall_mem_cons.mp hall
      exact ih hrest
  rw [readWithCancellation, hpoll _ (hcalm 0)]
  rfl

/-! ### The loops -/

/-- Where the first empty line of a header begins. -/
def findHeaderEnd : List UInt8 → Option ℕ
  | [] => none
  | byte :: bytes =>
    if [13, 10, 13, 10].isPrefixOf (byte :: bytes) then some 0
    else (findHeaderEnd bytes).map (· + 1)

/-- What one of the readers answers, and how it takes a header: what it says, and the length of
the body. -/
structure Framing (ε η : Type) where
  tooLong : ε
  cutOff : ε
  surplus : ε
  readError : ReadError → ε
  /-- How many bytes it may have read before the end of the header. -/
  maxBuffered : Option ℕ
  /-- Never fewer than a header that is too long and one more buffer. -/
  roomy : ∀ bound ∈ maxBuffered, maxHeaderBytes + bufferBytes ≤ bound
  head : List UInt8 → Except ε (η × ℕ)

section Loops

variable {ε η : Type} (framing : Framing ε η) (reader : Reader)

/-- Reads until the header has ended: where it does, the bytes so far and the rest.  Each read
takes one byte at least, and there is room for so many. -/
def fillHeader (room : ℕ) (bytes : List UInt8) (source : Source) :
    Except ε (ℕ × List UInt8 × Source) :=
  match findHeaderEnd bytes with
  | some headerEnd =>
    if headerEnd + 4 > maxHeaderBytes then .error framing.tooLong
    else .ok (headerEnd, bytes, source)
  | none =>
    if bytes.length ≥ maxHeaderBytes then .error framing.tooLong
    else
      match room with
      | 0 => .error framing.tooLong
      | room + 1 =>
        match reader source bufferBytes with
        | .error error => .error (framing.readError error)
        | .ok (chunk, source) =>
          if chunk.isEmpty then .error framing.cutOff
          else if framing.maxBuffered.any (· < (bytes ++ chunk).length) then
            .error framing.tooLong
          else fillHeader room (bytes ++ chunk) source

/-- Reads until the body is complete. -/
def fillBody (missing contentLength : ℕ) (body : List UInt8) (source : Source) :
    Except ε (List UInt8) :=
  if body.length < contentLength then
    match missing with
    | 0 => .error framing.cutOff
    | missing + 1 =>
      match reader source (min (contentLength - body.length) bufferBytes) with
      | .error error => .error (framing.readError error)
      | .ok (chunk, source) =>
        if chunk.isEmpty then .error framing.cutOff
        else fillBody missing contentLength (body ++ chunk) source
  else .ok body

def readMessage (source : Source) : Except ε (η × List UInt8) := do
  let (headerEnd, bytes, source) ← fillHeader framing reader maxHeaderBytes [] source
  let (info, contentLength) ← framing.head (bytes.take headerEnd)
  let bodyStart := headerEnd + 4
  refuse (bytes.length - bodyStart > contentLength) framing.surplus
  let body ← fillBody framing reader contentLength contentLength (bytes.drop bodyStart) source
  return (info, body)

end Loops

/-! ### The end of the header -/

lemma findHeaderEnd_bound {bytes : List UInt8} {headerEnd : ℕ}
    (h : findHeaderEnd bytes = some headerEnd) : headerEnd + 4 ≤ bytes.length := by
  induction bytes generalizing headerEnd with
  | nil => cases h
  | cons byte bytes ih =>
    rw [findHeaderEnd] at h
    split_ifs at h with hhere
    · obtain rfl := Option.some.inj h
      exact (List.isPrefixOf_iff_prefix.mp hhere).length_le
    · obtain ⟨inner, hinner, rfl⟩ := Option.map_eq_some_iff.mp h
      have := ih hinner
      rw [List.length_cons]
      omega

/-- What comes later does not move the end of the header. -/
lemma findHeaderEnd_append {bytes : List UInt8} {headerEnd : ℕ}
    (h : findHeaderEnd bytes = some headerEnd) (later : List UInt8) :
    findHeaderEnd (bytes ++ later) = some headerEnd := by
  induction bytes generalizing headerEnd with
  | nil => cases h
  | cons byte bytes ih =>
    rw [findHeaderEnd] at h
    rw [List.cons_append, findHeaderEnd]
    split_ifs at h with hhere
    · have hprefix : [13, 10, 13, 10] <+: byte :: (bytes ++ later) :=
        (List.isPrefixOf_iff_prefix.mp hhere).trans (List.prefix_append (byte :: bytes) later)
      rw [if_pos (List.isPrefixOf_iff_prefix.mpr hprefix), ← h]
    · obtain ⟨inner, hinner, rfl⟩ := Option.map_eq_some_iff.mp h
      have hnot : ¬ [13, 10, 13, 10].isPrefixOf (byte :: (bytes ++ later)) := by
        intro hprefix
        have hbound := findHeaderEnd_bound hinner
        refine hhere (List.isPrefixOf_iff_prefix.mpr ?_)
        refine List.prefix_of_prefix_length_le (List.isPrefixOf_iff_prefix.mp hprefix)
          (List.prefix_append (byte :: bytes) later) ?_
        simp only [List.length_cons, List.length_nil]
        omega
      rw [if_neg hnot, ih hinner, Option.map_some]

/-- The end of the header is found as soon as it is there. -/
lemma findHeaderEnd_of_append {bytes later : List UInt8} {headerEnd : ℕ}
    (h : findHeaderEnd (bytes ++ later) = some headerEnd) (hbound : headerEnd + 4 ≤ bytes.length) :
    findHeaderEnd bytes = some headerEnd := by
  induction bytes generalizing headerEnd with
  | nil =>
    rw [List.length_nil] at hbound
    omega
  | cons byte bytes ih =>
    rw [List.cons_append, findHeaderEnd] at h
    rw [findHeaderEnd]
    split_ifs at h with hhere
    · obtain rfl := Option.some.inj h
      have hprefix := List.prefix_of_prefix_length_le (List.isPrefixOf_iff_prefix.mp hhere)
        (List.prefix_append (byte :: bytes) later) (by simpa using hbound)
      rw [if_pos (List.isPrefixOf_iff_prefix.mpr hprefix)]
    · obtain ⟨inner, hinner, rfl⟩ := Option.map_eq_some_iff.mp h
      rw [List.length_cons] at hbound
      have hnot : ¬ [13, 10, 13, 10].isPrefixOf (byte :: bytes) := by
        intro hprefix
        refine hhere (List.isPrefixOf_iff_prefix.mpr ?_)
        exact (List.isPrefixOf_iff_prefix.mp hprefix).trans
          (List.prefix_append (byte :: bytes) later)
      rw [if_neg hnot, ih hinner (by omega), Option.map_some]

/-- Before the header has ended there is no end of it, and there are bytes to come. -/
lemma findHeaderEnd_of_short {bytes later : List UInt8} {headerEnd : ℕ}
    (h : findHeaderEnd (bytes ++ later) = some headerEnd) (hshort : bytes.length < headerEnd + 4) :
    findHeaderEnd bytes = none ∧ later ≠ [] := by
  constructor
  · cases hfound : findHeaderEnd bytes with
    | none => rfl
    | some other =>
      have hsame := findHeaderEnd_append hfound later
      rw [h] at hsame
      obtain rfl := Option.some.inj hsame
      have := findHeaderEnd_bound hfound
      omega
  · rintro rfl
    have := findHeaderEnd_bound h
    rw [List.append_nil] at this
    omega

/-! ### What the loops do -/

namespace Source

variable {source : Source}

/-- What a read takes, and what it leaves. -/
lemma take_append_rest (count : ℕ) : source.rest.take count ++ (source.after count).rest =
    source.rest := List.take_append_drop count source.rest

lemma count_pos (capacity : ℕ) (h : 0 < capacity) : 0 < source.count capacity := by
  rw [count]
  omega

end Source

section Spec

variable {ε η : Type} (framing : Framing ε η) {reader : Reader}

/-- A header that has ended in time. -/
lemma fillHeader_found {room headerEnd : ℕ} {bytes : List UInt8} (source : Source)
    (hfound : findHeaderEnd bytes = some headerEnd) (hfits : headerEnd + 4 ≤ maxHeaderBytes) :
    fillHeader framing reader room bytes source = .ok (headerEnd, bytes, source) := by
  cases room <;>
  · rw [fillHeader, hfound]
    exact if_neg (by omega)

variable (hplain : Plain reader)
include hplain

/-- One more read, while the header has not ended and is not too long. -/
lemma fillHeader_step {room : ℕ} {bytes : List UInt8} {source : Source} (hcalm : source.Calm)
    (hnone : findHeaderEnd bytes = none) (hshort : bytes.length < maxHeaderBytes)
    (hrest : source.rest ≠ []) :
    fillHeader framing reader (room + 1) bytes source =
      fillHeader framing reader room (bytes ++ source.rest.take (source.count bufferBytes))
        (source.after (source.count bufferBytes)) := by
  have hcount := source.count_pos bufferBytes (by decide)
  have hchunk : (source.rest.take (source.count bufferBytes)).isEmpty = false := by
    rw [List.isEmpty_eq_false_iff, Ne, List.take_eq_nil_iff]
    rintro (hzero | hnil)
    · omega
    · exact hrest hnil
  have hroom : framing.maxBuffered.any
      (· < (bytes ++ source.rest.take (source.count bufferBytes)).length) = false := by
    cases hbound : framing.maxBuffered with
    | none => rfl
    | some bound =>
      have hroomy := framing.roomy bound hbound
      have hcapacity : source.count bufferBytes ≤ bufferBytes := Nat.min_le_left _ _
      rw [Option.any_some, decide_eq_false_iff_not, List.length_append, List.length_take]
      omega
  rw [fillHeader, hnone]
  dsimp only
  rw [if_neg (by omega), hplain source bufferBytes hcalm]
  dsimp only
  rw [hchunk, hroom]
  rfl

/-- A header that ends in time is found; by induction on the room.  At most one read goes past
its end. -/
lemma fillHeader_of_end {headerEnd step room : ℕ} {bytes whole : List UInt8} {source : Source}
    (hcalm : source.Calm) (hwhole : bytes ++ source.rest = whole)
    (hend : findHeaderEnd whole = some headerEnd) (hfits : headerEnd + 4 ≤ maxHeaderBytes)
    (hroom : maxHeaderBytes ≤ bytes.length + room)
    (hstep : ∀ n, min bufferBytes (source.ready n + 1) ≤ step) :
    ∃ buffered later, fillHeader framing reader room bytes source =
        .ok (headerEnd, buffered, later) ∧
      buffered ++ later.rest = whole ∧ later.Calm ∧ headerEnd + 4 ≤ buffered.length ∧
      buffered.length ≤ max bytes.length (headerEnd + 3 + step) := by
  induction room generalizing bytes source with
  | zero =>
    have hhere : findHeaderEnd bytes = some headerEnd :=
      findHeaderEnd_of_append (hwhole ▸ hend) (by omega)
    exact ⟨bytes, source, fillHeader_found framing source hhere hfits, hwhole, hcalm, by omega,
      le_max_left _ _⟩
  | succ room ih =>
    by_cases hbound : headerEnd + 4 ≤ bytes.length
    · have hhere := findHeaderEnd_of_append (hwhole ▸ hend) hbound
      exact ⟨bytes, source, fillHeader_found framing source hhere hfits, hwhole, hcalm, hbound,
        le_max_left _ _⟩
    · obtain ⟨hnone, hrest⟩ := findHeaderEnd_of_short (hwhole ▸ hend) (not_le.mp hbound)
      have hpositive := List.length_pos_iff.mpr hrest
      have hcount := source.count_pos bufferBytes (by decide)
      have htaken : source.count bufferBytes ≤ step := hstep 0
      have hnext : (bytes ++ source.rest.take (source.count bufferBytes)) ++
          (source.after (source.count bufferBytes)).rest = whole := by
        rw [List.append_assoc, source.take_append_rest, hwhole]
      obtain ⟨buffered, later, hfill, happend, hlater, hlower, hupper⟩ :=
        ih (hcalm.after (source.count bufferBytes)) hnext
          (by rw [List.length_append, List.length_take]; omega) (fun n => hstep (n + 1))
      refine ⟨buffered, later, ?_, happend, hlater, hlower, hupper.trans ?_⟩
      · rw [fillHeader_step framing hplain hcalm hnone (by omega) hrest, hfill]
      · rw [List.length_append, List.length_take]
        omega

/-- A header that does not end in time is too long, or cut off. -/
lemma fillHeader_of_none {room : ℕ} {bytes whole : List UInt8} {source : Source}
    (hcalm : source.Calm) (hwhole : bytes ++ source.rest = whole)
    (hend : ∀ headerEnd, findHeaderEnd whole = some headerEnd → maxHeaderBytes < headerEnd + 4)
    (hroom : maxHeaderBytes ≤ bytes.length + room) :
    fillHeader framing reader room bytes source =
      .error (if maxHeaderBytes ≤ whole.length then framing.tooLong else framing.cutOff) := by
  have hlength : whole.length = bytes.length + source.rest.length := by
    rw [← hwhole, List.length_append]
  induction room generalizing bytes source with
  | zero =>
    rw [if_pos (by omega), fillHeader]
    cases hfound : findHeaderEnd bytes with
    | none => exact if_pos (by omega)
    | some headerEnd =>
      have := hend headerEnd (hwhole ▸ findHeaderEnd_append hfound source.rest)
      exact if_pos (by omega)
  | succ room ih =>
    cases hfound : findHeaderEnd bytes with
    | some headerEnd =>
      have hlate := hend headerEnd (hwhole ▸ findHeaderEnd_append hfound source.rest)
      have hbound := findHeaderEnd_bound hfound
      rw [if_pos (by omega), fillHeader, hfound]
      exact if_pos (by omega)
    | none =>
      by_cases hshort : bytes.length < maxHeaderBytes
      · by_cases hrest : source.rest = []
        · rw [hrest, List.length_nil] at hlength
          rw [if_neg (by omega), fillHeader, hfound]
          dsimp only
          rw [if_neg (by omega), hplain source bufferBytes hcalm, hrest, List.take_nil]
          rfl
        · have hcount := source.count_pos bufferBytes (by decide)
          have hpositive := List.length_pos_iff.mpr hrest
          rw [fillHeader_step framing hplain hcalm hfound hshort hrest]
          have hnext : (bytes ++ source.rest.take (source.count bufferBytes)) ++
              (source.after (source.count bufferBytes)).rest = whole := by
            rw [List.append_assoc, source.take_append_rest, hwhole]
          refine ih (hcalm.after _) hnext ?_ ?_
          · rw [List.length_append, List.length_take]
            omega
          · rw [← hnext, List.length_append]
      · rw [if_pos (by omega), fillHeader, hfound]
        exact if_pos (by omega)

/-- The body is what the header asks for, unless the stream ends before. -/
lemma fillBody_eq {missing contentLength : ℕ} {body : List UInt8} {source : Source}
    (hcalm : source.Calm) (hbody : body.length ≤ contentLength)
    (hmissing : contentLength ≤ body.length + missing) :
    fillBody framing reader missing contentLength body source =
      if body.length + source.rest.length < contentLength then .error framing.cutOff
      else .ok (body ++ source.rest.take (contentLength - body.length)) := by
  induction missing generalizing body source with
  | zero =>
    have hequal : contentLength - body.length = 0 := by omega
    rw [fillBody, if_neg (by omega), if_neg (by omega), hequal, List.take_zero, List.append_nil]
  | succ missing ih =>
    by_cases hless : body.length < contentLength
    · rw [fillBody, if_pos hless, hplain source _ hcalm]
      dsimp only
      set count := source.count (min (contentLength - body.length) bufferBytes) with hcount
      have hbuffer : 0 < bufferBytes := by decide
      have hpositive : 0 < count := source.count_pos _ (by omega)
      have hupper : count ≤ contentLength - body.length :=
        (Nat.min_le_left _ _).trans (Nat.min_le_left _ _)
      by_cases hrest : source.rest = []
      · have hcut : body.length + 0 < contentLength := hless
        rw [hrest, List.take_nil, List.length_nil, if_pos hcut]
        rfl
      · have hsome := List.length_pos_iff.mpr hrest
        have hchunk : (source.rest.take count).isEmpty = false := by
          rw [List.isEmpty_eq_false_iff, Ne, List.take_eq_nil_iff]
          rintro (hzero | hnil)
          · omega
          · exact hrest hnil
        have htake : (source.rest.take count).length = min count source.rest.length :=
          List.length_take
        rw [hchunk, if_neg Bool.false_ne_true, ih (hcalm.after count)
          (by rw [List.length_append]; omega) (by rw [List.length_append]; omega)]
        have hlengths : (body ++ source.rest.take count).length + (source.after count).rest.length =
            body.length + source.rest.length := by
          rw [List.length_append, add_assoc, ← List.length_append, source.take_append_rest]
        rw [hlengths]
        split_ifs with hcut
        · rfl
        · have hfirst : (source.rest.take count).length = count := by omega
          have hjoin : source.rest.take (contentLength - body.length) = source.rest.take count ++
              (source.rest.drop count).take (contentLength - body.length - count) := by
            rw [← List.take_add]
            congr 1
            omega
          have hleft : contentLength - (body ++ source.rest.take count).length =
              contentLength - body.length - count := by
            rw [List.length_append]
            omega
          rw [List.append_assoc, hjoin, hleft]
          rfl
    · have hequal : contentLength - body.length = 0 := by omega
      rw [fillBody, if_neg hless, if_neg (by omega), hequal, List.take_zero, List.append_nil]

end Spec

/-! ### What the loops make of the bytes -/

section Settle

variable {ε η : Type} (framing : Framing ε η)

/-- What a stream is read as, when a given number of its bytes was taken along with the header. -/
def settle (whole : List UInt8) (buffered : ℕ) : Except ε (η × List UInt8) :=
  match findHeaderEnd whole with
  | some headerEnd =>
    if headerEnd + 4 > maxHeaderBytes then .error framing.tooLong
    else do
      let (info, contentLength) ← framing.head (whole.take headerEnd)
      refuse (buffered - (headerEnd + 4) > contentLength) framing.surplus
      refuse ((whole.drop (headerEnd + 4)).length < contentLength) framing.cutOff
      return (info, (whole.drop (headerEnd + 4)).take contentLength)
  | none => .error (if maxHeaderBytes ≤ whole.length then framing.tooLong else framing.cutOff)

/-- How many bytes can be taken along with a header, when no read takes more than some number. -/
structure Buffered (whole : List UInt8) (step buffered : ℕ) : Prop where
  lower : ∀ headerEnd, findHeaderEnd whole = some headerEnd → headerEnd + 4 ≤ maxHeaderBytes →
    headerEnd + 4 ≤ buffered
  upper : ∀ headerEnd, findHeaderEnd whole = some headerEnd → headerEnd + 4 ≤ maxHeaderBytes →
    buffered ≤ headerEnd + 3 + step
  bounded : buffered ≤ whole.length

variable {framing}

/-- A header that is found settles the answer. -/
lemma readMessage_of_fillHeader {reader : Reader} (hplain : Plain reader) {source later : Source}
    {headerEnd : ℕ} {bytes whole : List UInt8}
    (hfill : fillHeader framing reader maxHeaderBytes [] source = .ok (headerEnd, bytes, later))
    (hwhole : bytes ++ later.rest = whole) (hlater : later.Calm)
    (hlower : headerEnd + 4 ≤ bytes.length) (hfound : findHeaderEnd whole = some headerEnd)
    (hfits : headerEnd + 4 ≤ maxHeaderBytes) :
    readMessage framing reader source = settle framing whole bytes.length := by
  have htake : bytes.take headerEnd = whole.take headerEnd := by
    rw [← hwhole, List.take_append_of_le_length (by omega)]
  have hdrop : whole.drop (headerEnd + 4) = bytes.drop (headerEnd + 4) ++ later.rest := by
    rw [← hwhole, List.drop_append_of_le_length hlower]
  rw [readMessage, hfill, settle, hfound]
  dsimp only
  rw [if_neg (by omega)]
  change (framing.head (bytes.take headerEnd) >>= fun _ => _) = _
  rw [htake]
  cases hhead : framing.head (whole.take headerEnd) with
  | error refusal => rfl
  | ok result =>
    obtain ⟨info, contentLength⟩ := result
    change (refuse (bytes.length - (headerEnd + 4) > contentLength) framing.surplus >>=
      fun _ => _) = (refuse (bytes.length - (headerEnd + 4) > contentLength) framing.surplus >>=
      fun _ => _)
    by_cases hsurplus : bytes.length - (headerEnd + 4) > contentLength
    · rw [refuse, if_pos hsurplus]
      rfl
    · rw [refuse, if_neg hsurplus]
      change (fillBody framing reader contentLength contentLength
        (bytes.drop (headerEnd + 4)) later >>= fun _ => _) = (refuse _ _ >>= fun _ => _)
      have hlength : (bytes.drop (headerEnd + 4)).length ≤ contentLength := by
        rw [List.length_drop]
        omega
      rw [fillBody_eq framing hplain hlater hlength (Nat.le_add_left _ _), hdrop]
      by_cases hcut : (bytes.drop (headerEnd + 4)).length + later.rest.length < contentLength
      · rw [if_pos hcut, refuse, if_pos (by rw [List.length_append]; exact hcut)]
        rfl
      · rw [if_neg hcut, refuse, if_neg (by rw [List.length_append]; exact hcut),
          List.take_append, List.take_of_length_le hlength]
        rfl

variable (framing)

/-- **What a reader answers** is settled by the bytes of the stream, and by how many of them were
taken along with the header. -/
theorem readMessage_eq {reader : Reader} (hplain : Plain reader) {source : Source}
    (hcalm : source.Calm) {step : ℕ} (hstep : ∀ n, min bufferBytes (source.ready n + 1) ≤ step) :
    ∃ buffered, readMessage framing reader source = settle framing source.rest buffered ∧
      Buffered source.rest step buffered := by
  have hempty : [] ++ source.rest = source.rest := List.nil_append _
  by_cases hend : ∃ headerEnd, findHeaderEnd source.rest = some headerEnd ∧
      headerEnd + 4 ≤ maxHeaderBytes
  · obtain ⟨headerEnd, hfound, hfits⟩ := hend
    obtain ⟨bytes, later, hfill, hwhole, hlater, hlower, hupper⟩ := fillHeader_of_end
      framing hplain hcalm hempty hfound hfits (Nat.le_add_left _ _) hstep
    refine ⟨bytes.length, readMessage_of_fillHeader hplain hfill hwhole hlater hlower hfound hfits,
      fun other hother _ => ?_, fun other hother _ => ?_, ?_⟩
    · obtain rfl := Option.some.inj (hfound.symm.trans hother)
      exact hlower
    · obtain rfl := Option.some.inj (hfound.symm.trans hother)
      rw [List.length_nil, Nat.zero_max] at hupper
      exact hupper
    · rw [← hwhole, List.length_append]
      omega
  · have hlate : ∀ headerEnd, findHeaderEnd source.rest = some headerEnd →
        maxHeaderBytes < headerEnd + 4 := by
      intro headerEnd hfound
      by_contra hfits
      exact hend ⟨headerEnd, hfound, not_lt.mp hfits⟩
    refine ⟨0, ?_, fun other hother hfits => ?_, fun other hother hfits => ?_, Nat.zero_le _⟩
    · have hfill := fillHeader_of_none framing hplain hcalm hempty hlate
        (Nat.le_add_left maxHeaderBytes _)
      rw [readMessage, hfill, settle]
      cases hfound : findHeaderEnd source.rest with
      | none => rfl
      | some headerEnd =>
        have := hlate headerEnd hfound
        have hbound := findHeaderEnd_bound hfound
        dsimp only
        rw [if_pos (by omega), if_pos (by omega)]
        rfl
    · have := hlate other hother
      omega
    · have := hlate other hother
      omega

end Settle

end Sts2Gateway.Http
