import Mathlib.Data.List.Forall2
import TradingEngine.Journal.Audit
import TradingEngine.Proofs.Json.Readable
import TradingEngine.Proofs.Json.Writing

/-! # Reading an audit trail

An event is recorded unless it has no text, and then the trail stays as it was. The trail can be
taken apart again, whatever the recorded events hold: its line breaks separate the lines, the last
bar of a line separates the recorded text from its signature, and the text is read as the event.
This needs nothing of the signer but that it answers with hexadecimal digits, and nothing of an
event but that it is the value of a text in which no double stands.
-/

namespace TradingEngine

/-! ### No line breaks -/

namespace Numeral

theorem hexDigit_ne_newline {d : Nat} (small : d < 16) : hexDigit d ≠ '\n' := by
  revert d
  decide

theorem newline_notMem_ofInt (n : Int) : '\n' ∉ ofInt n := by
  have digits (n : Nat) : '\n' ∉ digits n := fun member => by
    cases isDigit_of_mem_digits '\n' member
  cases n with
  | ofNat n => exact digits n
  | negSucc n => simp [ofInt, digits]

end Numeral

namespace Json

theorem newline_notMem_escapedUnit (n : Nat) : '\n' ∉ escapedUnit n := by
  have digit (k : Nat) : '\n' ≠ Numeral.hexDigit (k % 16) :=
    (Numeral.hexDigit_ne_newline (by omega)).symm
  simp [escapedUnit, digit]

theorem newline_notMem_escaped (l : Letter) : '\n' ∉ escaped l := by
  have spelled := spelled_escaped l
  generalize escaped l = cs at spelled ⊢
  cases spelled with
  | @short _ e named other =>
      have shown : e ≠ '\n' := by
        rintro rfl
        cases named
      simp [shown.symm]
  | @plain c _ _ shown _ =>
      have printed : c ≠ '\n' := by
        rintro rfl
        exact absurd shown (by decide)
      simp [printed.symm]
  | unit small => exact newline_notMem_escapedUnit _
  | pair first second =>
      rw [List.mem_append, not_or]
      exact ⟨newline_notMem_escapedUnit _, newline_notMem_escapedUnit _⟩

theorem newline_notMem_quoted (t : Text) : '\n' ∉ quoted t := by
  have letters : '\n' ∉ t.letters.flatMap escaped := by
    rw [List.mem_flatMap]
    rintro ⟨l, _, member⟩
    exact newline_notMem_escaped l member
  simp [quoted, letters]

/-- The text of a plain value is one line. -/
theorem newline_notMem_render {v : Json} (plain : v.isPlain = true) : '\n' ∉ v.render := by
  induction v using inductionOn with
  | null => decide
  | bool b => cases b <;> decide
  | int n => exact Numeral.newline_notMem_ofInt n
  | real x => cases plain
  | text t => exact newline_notMem_quoted t
  | list xs ih =>
      have each (x : Json) (member : x ∈ xs) := ih x member (allPlain_iff.mp plain x member)
      have items (xs : List Json) (each : ∀ x ∈ xs, '\n' ∉ x.render) : '\n' ∉ renderItems xs := by
        induction xs with
        | nil => decide
        | cons x xs ih =>
            rw [List.forall_mem_cons] at each
            simp [renderItems, each.1, ih each.2]
      cases xs with
      | nil => decide
      | cons x xs =>
          rw [List.forall_mem_cons] at each
          simp [render, each.1, items xs each.2]
  | record fs ih =>
      have each (f : Text × Json) (member : f ∈ fs) :=
        ih f member ((fieldsPlain_iff.mp plain).2 f member).2
      have fields (fs : Fields) (each : ∀ f ∈ fs, '\n' ∉ f.2.render) : '\n' ∉ renderFields fs := by
        induction fs with
        | nil => decide
        | cons f fs ih =>
            rw [List.forall_mem_cons] at each
            simp [renderFields, newline_notMem_quoted, each.1, ih each.2]
      cases fs with
      | nil => decide
      | cons f fs =>
          rw [List.forall_mem_cons] at each
          simp [render, newline_notMem_quoted, each.1, fields fs each.2]

theorem newline_notMem_canonical {v : Json} (plain : v.isPlain = true) :
    '\n' ∉ v.canonical.toList := by
  rw [canonical, String.toList_ofList]
  exact newline_notMem_render (isPlain_sorted.mpr plain)

end Json

namespace Audit

/-! ### Signatures -/

/-- Whether a character is a hexadecimal digit in lower case. -/
def isHexDigit (c : Char) : Bool := c.isDigit || ('a' ≤ c && c ≤ 'f')

/-- A signer that answers with 64 hexadecimal digits. -/
structure IsHex (sign : Signer) : Prop where
  length (payload : String) : (sign payload).length = 64
  digits (payload : String) : ∀ c ∈ (sign payload).toList, isHexDigit c = true

/-- Every key signs with hexadecimal digits. -/
theorem isHex_of_signer {key : Text} {sign : Signer} (h : signer key = .ok sign) : IsHex sign := by
  have digit {d : Nat} (small : d < 16) : isHexDigit (Numeral.hexDigit d) = true := by
    revert d
    decide
  unfold signer at h
  split at h
  · cases h
    refine ⟨fun payload => Hmac.length_signature _ payload, fun payload c member => ?_⟩
    rw [Hmac.signature, String.toList_ofList, List.mem_flatMap] at member
    obtain ⟨b, _, member⟩ := member
    have byte := b.toNat_lt
    simp only [Hmac.hexByte, List.mem_cons, List.not_mem_nil, or_false] at member
    rcases member with rfl | rfl <;> exact digit (by omega)
  · cases h

variable {sign : Signer}

theorem IsHex.notMem {c : Char} (hex : IsHex sign) (other : isHexDigit c = false)
    (payload : String) : c ∉ (sign payload).toList := fun member => by
  cases other.symm.trans (hex.digits payload c member)

/-! ### Lines and their parts -/

/-- What the line breaks of a text separate. -/
def lines (text : String) : List String := (text.split '\n').toList.map (·.copy)

/-- What stands before and what stands behind the last bar of a line. -/
def parted (line : String) : String × String :=
  let backwards := line.toList.reverse
  (String.ofList ((backwards.dropWhile (· != '|')).drop 1).reverse,
    String.ofList (backwards.takeWhile (· != '|')).reverse)

theorem parted_append (before : String) {behind : String} (noBar : '|' ∉ behind.toList) :
    parted (before ++ "|" ++ behind) = (before, behind) := by
  have others : ∀ c ∈ behind.toList.reverse, (c != '|') = true := by
    intro c member
    rw [bne_iff_ne]
    rintro rfl
    exact noBar (List.mem_reverse.mp member)
  simp [parted, List.takeWhile_append_of_pos others, List.dropWhile_append_of_pos others]

/-! ### Recording -/

/-- An event is written: no number in it has too many digits, and there is room for its lists and
    objects. -/
structure Notice.Written (n : Notice) : Prop where
  digits : n.event.isWritable = true
  depth : n.event.depth ≤ n.room

instance (n : Notice) : Decidable n.Written :=
  decidable_of_iff (n.event.isWritable = true ∧ n.event.depth ≤ n.room)
    ⟨fun h => ⟨h.1, h.2⟩, fun h => ⟨h.digits, h.depth⟩⟩

theorem Notice.Written.not_long {n : Notice} (h : n.Written) : n.event.isWritable ≠ false := by
  rw [h.digits]
  decide

/-- What is recorded of an event: its text and its signature, with a bar between them. -/
def entry (sign : Signer) (e : Json) : String := e.canonical ++ "|" ++ sign e.canonical

/-- How it ends to record an event, and the trail that is left. The event is handed on with its
    signature, unless it is no object. Of an event that is not written the trail does not tell. -/
inductive Recorded (sign : Signer) (n : Notice) (before : String) :
    Except Breakdown Json × String → Prop
  | signed (written : n.Written) {fs : Fields} (object : n.event = .record fs) :
      Recorded sign n before
        (.ok (.record (Json.put "signature" (.text (sign n.event.canonical)) fs)),
          before ++ (entry sign n.event ++ "\n"))
  | unsigned (written : n.Written) (other : ∀ fs, n.event ≠ .record fs) :
      Recorded sign n before (.error .wrongType, before ++ (entry sign n.event ++ "\n"))
  | digits (long : n.event.isWritable = false) :
      Recorded sign n before (.error .tooManyDigits, before)
  | depth (deep : n.room < n.event.depth) : Recorded sign n before (.error .tooDeep, before)

theorem record_ends (sign : Signer) (n : Notice) (before : String) :
    Recorded sign n before (record sign n before) := by
  have checked := n.event.checkWritten_sorted n.room
  cases ended : n.event.sorted.checkWritten n.room with
  | error b =>
      rw [ended] at checked
      have failed : record sign n before = (.error b, before) := by
        simp only [record, line, payload, ended]
        rfl
      rw [failed]
      cases checked with
      | digits long => exact .digits long
      | depth deep => exact .depth deep
  | ok _ =>
      obtain ⟨digits, fits⟩ := checked.ok_iff.mp ended
      have paid : payload n = .ok n.event.canonical := by
        rw [payload, ended]
        rfl
      have added : line sign n = .ok (entry sign n.event ++ "\n") := by
        rw [line, paid]
        rfl
      rw [record, added, signed, paid, Except.ok_bind]
      dsimp only
      split
      · rename_i fs object
        exact .signed ⟨digits, fits⟩ object
      · rename_i other
        exact .unsigned ⟨digits, fits⟩ other

theorem record_of_long (before : String) {n : Notice} (long : n.event.isWritable = false)
    (fits : n.event.depth ≤ n.room) : record sign n before = (.error .tooManyDigits, before) := by
  have ends := record_ends sign n before
  generalize record sign n before = ended at ends
  cases ends with
  | signed written object => exact absurd long written.not_long
  | unsigned written other => exact absurd long written.not_long
  | digits _ => rfl
  | depth deep => exact absurd fits (Nat.not_le.mpr deep)

theorem record_of_deep (before : String) {n : Notice} (short : n.event.isWritable = true)
    (deep : n.room < n.event.depth) : record sign n before = (.error .tooDeep, before) := by
  have ends := record_ends sign n before
  generalize record sign n before = ended at ends
  cases ends with
  | signed written object => exact absurd written.depth (Nat.not_le.mpr deep)
  | unsigned written other => exact absurd written.depth (Nat.not_le.mpr deep)
  | digits long => cases short.symm.trans long
  | depth _ => rfl

/-- The events of which a trail tells. -/
def recorded (notices : List Notice) : List Json := (notices.filter (·.Written)).map (·.event)

/-- The lines of these events. -/
def joined (sign : Signer) (events : List Json) : String :=
  String.join (events.map fun e => entry sign e ++ "\n")

theorem joined_cons (sign : Signer) (e : Json) (events : List Json) :
    joined sign (e :: events) = entry sign e ++ "\n" ++ joined sign events := by
  rw [joined, List.map_cons, String.join_cons]
  rfl

theorem recorded_cons (n : Notice) (notices : List Notice) :
    recorded (n :: notices) = if n.Written then n.event :: recorded notices else recorded notices := by
  unfold recorded
  rw [List.filter_cons]
  simp only [decide_eq_true_eq]
  split <;> rfl

theorem trail_eq (sign : Signer) (notices : List Notice) :
    trail sign notices = joined sign (recorded notices) := by
  have from_ (text : String) : notices.foldl (fun text n => (record sign n text).2) text =
      text ++ joined sign (recorded notices) := by
    induction notices generalizing text with
    | nil => exact String.append_empty.symm
    | cons n notices ih =>
        have ends := record_ends sign n text
        rw [List.foldl_cons, ih, recorded_cons]
        generalize record sign n text = ended at ends
        cases ends with
        | signed written object =>
            rw [if_pos written, joined_cons]
            exact String.append_assoc
        | unsigned written other =>
            rw [if_pos written, joined_cons]
            exact String.append_assoc
        | digits long => rw [if_neg fun written => written.not_long long]
        | depth deep => rw [if_neg fun written => Nat.not_le.mpr deep written.depth]
  rw [trail, from_, String.empty_append]

/-! ### Taking a trail apart -/

theorem newline_notMem_entry (hex : IsHex sign) {e : Json} (plain : e.isPlain = true) :
    '\n' ∉ (entry sign e).toList := by
  have noBreak := hex.notMem (c := '\n') (by decide) e.canonical
  simp [entry, Json.newline_notMem_canonical plain, noBreak]

theorem lines_joined {events : List Json} (single : ∀ e ∈ events, '\n' ∉ (entry sign e).toList) :
    lines (joined sign events) = events.map (entry sign) ++ [""] := by
  have split : lines (joined sign events) =
      ((joined sign events).toList.splitOn '\n').map String.ofList := String.toList_split_char
  rw [split]
  clear split
  induction events with
  | nil => rfl
  | cons e events ih =>
      have rest := ih fun f member => single f (List.mem_cons_of_mem _ member)
      have first : (joined sign (e :: events)).toList =
          (entry sign e).toList ++ '\n' :: (joined sign events).toList := by
        simp [joined_cons]
      rw [first, List.splitOn_append_cons_self_of_not_mem (single e List.mem_cons_self),
        List.map_cons, rest, String.ofList_toList, List.map_cons, List.cons_append]

/-- Taken apart at its line breaks and at the last bars of its lines, a trail gives the recorded
    texts and their signatures, in order, and nothing behind the last line break. -/
theorem parted_lines (hex : IsHex sign) {events : List Json}
    (plain : ∀ e ∈ events, e.isPlain = true) :
    (lines (joined sign events)).map parted =
      events.map (fun e => (e.canonical, sign e.canonical)) ++ [("", "")] := by
  rw [lines_joined fun e member => newline_notMem_entry hex (plain e member), List.map_append,
    List.map_map]
  congr 1
  refine List.map_congr_left fun e _ => ?_
  exact parted_append e.canonical (hex.notMem (by decide) e.canonical)

/-- Two trails are one text only if they record, one by one, events that differ in nothing but the
    order of their keys. -/
theorem reordered_of_joined_eq {other : Signer} (hex : IsHex sign) (hex' : IsHex other)
    {events others : List Json} (plain : ∀ e ∈ events, e.isPlain = true)
    (plain' : ∀ e ∈ others, e.isPlain = true) (same : joined sign events = joined other others) :
    List.Forall₂ Json.Reordered events others := by
  have pairs := parted_lines hex plain
  rw [same, parted_lines hex' plain', List.append_left_inj] at pairs
  have texts := congrArg (List.map Prod.fst) pairs
  rw [List.map_map, List.map_map] at texts
  clear pairs same
  induction events generalizing others with
  | nil =>
      cases others with
      | nil => exact .nil
      | cons o others => cases texts
  | cons e events ih =>
      cases others with
      | nil => cases texts
      | cons o others =>
          obtain ⟨first, rest⟩ := List.cons.inj texts
          rw [List.forall_mem_cons] at plain plain'
          exact .cons ((Json.canonical_eq_iff plain.1 plain'.1).mp first.symm)
            (ih plain.2 plain'.2 rest)

/-- Events that differ in nothing but the order of their keys make one trail. -/
theorem joined_eq_of_reordered {events others : List Json}
    (plain : ∀ e ∈ events, e.isPlain = true) (reordered : List.Forall₂ Json.Reordered events others) :
    joined sign events = joined sign others := by
  induction reordered with
  | nil => rfl
  | @cons e o events others first _ ih =>
      rw [List.forall_mem_cons] at plain
      have text : e.canonical = o.canonical :=
        (Json.canonical_eq_iff plain.1 (first.isPlain_iff.mp plain.1)).mpr first
      rw [joined_cons, joined_cons, ih plain.2, entry, text, entry]

/-- An audit trail tells which events it records, up to the order of their keys, whatever texts they
    hold and whoever signs with hexadecimal digits. It records the events that are written, and the
    others leave it as it was. It comes apart into the recorded texts and their signatures, each
    text is read as its event, and no other recorded events make this trail. -/
theorem trail_decodes (hex : IsHex sign) {notices : List Notice}
    (spelled : ∀ n ∈ notices, n.event.Exact) :
    (∀ n ∈ notices, ∀ before, Recorded sign n before (record sign n before)) ∧
      (lines (trail sign notices)).map parted =
        (recorded notices).map (fun e => (e.canonical, sign e.canonical)) ++ [("", "")] ∧
      (∀ e ∈ recorded notices, ∃ v, Json.parse? e.canonical = some v ∧ Json.Reordered e v) ∧
      (∀ (other : Signer) (others : List Notice), IsHex other → (∀ n ∈ others, n.event.Exact) →
        trail sign notices = trail other others →
          List.Forall₂ Json.Reordered (recorded notices) (recorded others)) ∧
      ∀ others, List.Forall₂ Json.Reordered (recorded notices) (recorded others) →
        trail sign notices = trail sign others := by
  have plain {notices : List Notice} (spelled : ∀ n ∈ notices, n.event.Exact) :
      ∀ e ∈ recorded notices, e.isPlain = true := by
    intro e member
    obtain ⟨n, kept, rfl⟩ := List.mem_map.mp member
    exact Json.exact_iff_isPlain.mp (spelled n (List.mem_filter.mp kept).1)
  simp only [trail_eq]
  refine ⟨fun n _ before => record_ends sign n before, parted_lines hex (plain spelled),
    fun e member => ?_, ?_, ?_⟩
  · exact ⟨e.sorted, Json.parse?_canonical (plain spelled e member), Json.reordered_sorted e⟩
  · intro other others hex' spelled' same
    exact reordered_of_joined_eq hex hex' (plain spelled) (plain spelled') same
  · intro others reordered
    exact joined_eq_of_reordered (plain spelled) reordered

/-- An event with the characters that frame a trail, a nested object with its keys out of order, a
    character beyond 16 bits and a half of a pair that stands alone. -/
def nestedEvent : Json :=
  .record [("note|\n", .text ⟨[.char '"', .char '\\', .char '😀', .char '\x07', .half 5]⟩),
    ("items", .list [.null, .bool true, .int (-12), .record [("z", .record []), ("y", .list [])]])]

/-- An event with a number of more digits than are written. -/
def longEvent : Json := .record [("n", .int Numeral.magnitudeLimit)]

/-- The event twice, of which there is room for one, and between them one that is never written. -/
def nestedNotices : List Notice := [⟨nestedEvent, 4⟩, ⟨longEvent, 4⟩, ⟨nestedEvent, 3⟩]

theorem nestedEvent_decodes : ∃ sign, signer "insecure" = .ok sign ∧
    (lines (trail sign nestedNotices)).map parted =
      [(nestedEvent.canonical, sign nestedEvent.canonical), ("", "")] ∧
    ∃ v, Json.parse? nestedEvent.canonical = some v ∧ Json.Reordered nestedEvent v := by
  have signs : signer "insecure" = .ok (Hmac.signature "insecure".toUTF8.toList) := by
    rw [signer, Text.string?_ofString]
  have spelled : ∀ n ∈ nestedNotices, n.event.Exact := by
    simp only [nestedNotices, List.forall_mem_cons, Json.exact_iff_isPlain]
    exact ⟨rfl, rfl, rfl, nofun⟩
  have kept : recorded nestedNotices = [nestedEvent] := by
    have filtered : nestedNotices.map (fun n => decide n.Written) = [true, false, false] := by
      decide +kernel
    simp only [nestedNotices, List.map_cons, List.cons.injEq] at filtered
    simp only [recorded, nestedNotices, List.filter_cons, filtered]
    rfl
  obtain ⟨-, apart, read, -⟩ := trail_decodes (isHex_of_signer signs) spelled
  rw [kept] at apart read
  exact ⟨_, signs, apart, read nestedEvent List.mem_cons_self⟩

/-- Neither of these events is written, and they leave the trail that no events leave. -/
theorem longEvent_unrecorded : ∃ sign, signer "insecure" = .ok sign ∧
    longEvent.Exact ∧ nestedEvent.Exact ∧
    (record sign ⟨longEvent, 1000⟩ "").1 = .error .tooManyDigits ∧
    (record sign ⟨nestedEvent, 3⟩ "").1 = .error .tooDeep ∧
    trail sign [⟨longEvent, 1000⟩, ⟨nestedEvent, 3⟩] = trail sign [] ∧
    ¬ List.Forall₂ Json.Reordered [longEvent, nestedEvent] [] := by
  have signs : signer "insecure" = .ok (Hmac.signature "insecure".toUTF8.toList) := by
    rw [signer, Text.string?_ofString]
  have long (before : String) : record (Hmac.signature "insecure".toUTF8.toList)
      ⟨longEvent, 1000⟩ before = (.error .tooManyDigits, before) :=
    record_of_long before (by decide +kernel) (by decide)
  have deep (before : String) : record (Hmac.signature "insecure".toUTF8.toList)
      ⟨nestedEvent, 3⟩ before = (.error .tooDeep, before) :=
    record_of_deep before (by decide +kernel) (by decide)
  refine ⟨_, signs, Json.exact_iff_isPlain.mpr rfl, Json.exact_iff_isPlain.mpr rfl, ?_, ?_, ?_,
    nofun⟩
  · rw [long]
  · rw [deep]
  · simp only [trail, List.foldl_cons, List.foldl_nil, long, deep]

end Audit

end TradingEngine
