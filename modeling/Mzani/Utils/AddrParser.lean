import Mzani.Support.Scanner
import Mzani.Utils.LogRecord

/-!
# Texts of socket addresses

The parser of socket addresses in the standard library, which reads what the
environment gives to the balancer, and the texts that it reads back.
-/

namespace Mzani

open Support Scanner

/-! ## The parser -/

/-- The number with these digits, for a base that is one more than the largest
digit. -/
def ofParts (width base : Nat) (parts : List Nat) : BitVec width :=
  BitVec.ofNat width (parts.foldl (fun sum part => sum * base + part) 0)

/-- The loop of `read_ipv4_addr`. -/
def readOctets : (left index : Nat) → Scanner (List Nat)
  | 0, _, text => some ([], text)
  | left + 1, index, text =>
      match separated '.' index (number 256 10 (some 3) false) text with
      | none => none
      | some (octet, rest) =>
          match readOctets left (index + 1) rest with
          | none => none
          | some (octets, last) => some (octet :: octets, last)

def readIpv4Addr : Scanner (BitVec 32) := fun text =>
  match readOctets 4 0 text with
  | none => none
  | some (octets, rest) => some (ofParts 32 256 octets, rest)

/-- `read_groups`: the groups, whether an IPv4 address was the last two of them,
and what is left. -/
def readGroups : (left index : Nat) → Text → List Nat × Bool × Text
  | 0, _, text => ([], false, text)
  | left + 1, index, text =>
      -- an IPv4 address takes two groups
      match if 0 < left then separated ':' index readIpv4Addr text else none with
      | some (ip, rest) => ([ip.toNat >>> 16, ip.toNat % 65536], true, rest)
      | none =>
          match separated ':' index (number u16Limit 16 (some 4) true) text with
          | none => ([], false, text)
          | some (group, rest) =>
              let (groups, ipv4, last) := readGroups left (index + 1) rest
              (group :: groups, ipv4, last)

def readIpv6Addr : Scanner (BitVec 128) := fun text =>
  let (head, headIpv4, rest) := readGroups 8 0 text
  if head.length = 8 then some (ofParts 128 65536 head, rest)
  else if headIpv4 = true then none
  else
    match rest with
    | ':' :: ':' :: rest =>
        let (tail, _, rest) := readGroups (8 - (head.length + 1)) 0 rest
        let zeros := List.replicate (8 - head.length - tail.length) 0
        some (ofParts 128 65536 (head ++ zeros ++ tail), rest)
    | _ => none

def readPort : Scanner (BitVec 16) := fun text =>
  match givenChar ':' text with
  | none => none
  | some (_, rest) =>
      (number u16Limit 10 none true rest).map fun (port, rest) => (.ofNat 16 port, rest)

def readScopeId : Scanner (BitVec 32) := fun text =>
  match givenChar '%' text with
  | none => none
  | some (_, rest) =>
      (number u32Limit 10 none true rest).map fun (scope, rest) => (.ofNat 32 scope, rest)

def readSocketAddrV4 : Scanner SocketAddr := fun text =>
  match readIpv4Addr text with
  | none => none
  | some (ip, rest) => (readPort rest).map fun (port, rest) => (.v4 ip port, rest)

def readSocketAddrV6 : Scanner SocketAddr := fun text =>
  match givenChar '[' text with
  | none => none
  | some (_, rest) =>
      match readIpv6Addr rest with
      | none => none
      | some (ip, rest) =>
          let (scopeId, rest) := (readScopeId rest).getD (0, rest)
          match givenChar ']' rest with
          | none => none
          | some (_, rest) =>
              (readPort rest).map fun (port, rest) => (.v6 ip port 0 scopeId, rest)

def readSocketAddr : Scanner SocketAddr := fun text =>
  (readSocketAddrV4 text).or (readSocketAddrV6 text)

/-- `SocketAddr::from_str` -/
def SocketAddr.fromStr (text : Text) : Option SocketAddr :=
  whole readSocketAddr text

/-- `Display for AddrParseError` -/
def addrParseError : String := "invalid socket address syntax"

example : SocketAddr.fromStr "[fe80::1%3]:080".toList = some (.v6 (0xfe80 <<< 112 ||| 1) 80 0 3) := by
  decide

/-! ## IPv4 addresses -/

/-- Texts with a separator before each but the first one of all. -/
def joinFrom (separator : Char) : (index : Nat) → List Text → Text
  | _, [] => []
  | index, text :: texts =>
      (if 0 < index then [separator] else []) ++ text ++ joinFrom separator (index + 1) texts

theorem joinFrom_succ (separator : Char) (index : Nat) (texts : List Text) :
    joinFrom separator (index + 1) texts = joinFrom separator 1 texts := by
  induction texts generalizing index with
  | nil => rfl
  | cons text texts ih => simp [joinFrom, ih]

theorem joinFrom_zero (separator : Char) (texts : List Text) :
    joinFrom separator 0 texts = (texts.intersperse [separator]).flatten := by
  induction texts with
  | nil => rfl
  | cons text texts ih =>
      cases texts with
      | nil => simp [joinFrom]
      | cons next texts =>
          simp only [joinFrom, List.intersperse_cons_cons, List.flatten_cons] at ih ⊢
          simp [joinFrom_succ separator 1, ← ih]

theorem separated_zero {α : Type} (separator : Char) (inner : Scanner α) (text : Text) :
    separated separator 0 inner text = inner text := rfl

theorem separated_succ {α : Type} (separator : Char) (index : Nat) (inner : Scanner α)
    (text : Text) : separated separator (index + 1) inner (separator :: text) = inner text := by
  simp [separated, givenChar]

/-- What a separated value is read from. -/
theorem separated_eq_some_iff {α : Type} {separator : Char} {index : Nat} {inner : Scanner α}
    {text rest : Text} {value : α} :
    separated separator index inner text = some (value, rest) ↔
      ∃ more, text = (if 0 < index then [separator] else []) ++ more ∧
        inner more = some (value, rest) := by
  cases index with
  | zero => simp [separated_zero]
  | succ index =>
      cases text with
      | nil => simp [separated, givenChar]
      | cons head tail =>
          by_cases same : head = separator
          · subst same
            simp [separated_succ]
          · simp [separated, givenChar, same]

theorem separated_append {α : Type} {inner : Scanner α} {more rest : Text} {value : α}
    (separator : Char) (index : Nat) (read : inner more = some (value, rest)) :
    separated separator index inner ((if 0 < index then [separator] else []) ++ more) =
      some (value, rest) :=
  separated_eq_some_iff.mpr ⟨more, rfl, read⟩

/-- An octet is read as it is displayed. -/
theorem readOctet_eq_some_iff {text rest : Text} {octet : Nat} :
    number 256 10 (some 3) false text = some (octet, rest) ↔
      text = decimal octet ++ rest ∧ Stops 10 rest ∧ octet < 256 := by
  rw [number_eq_some_iff (by decide) (by decide)]
  constructor
  · rintro ⟨digits, rfl, stops, numeral⟩
    have canonical := eq_toDigits_of_all numeral.nonempty numeral.all (numeral.zero rfl)
    rw [numeral.reads] at canonical
    exact ⟨congrArg (· ++ rest) canonical, stops, numeral.fits⟩
  · rintro ⟨rfl, stops, fits⟩
    refine ⟨decimal octet, rfl, stops, numeral_toDigits (by decide) (by decide) fits ?_⟩
    intro most three
    cases three
    omega

theorem readOctets_succ_eq_some_iff {left index : Nat} {text rest : Text}
    {octets : List Nat} :
    readOctets (left + 1) index text = some (octets, rest) ↔
      ∃ octet others more, octets = octet :: others ∧ octet < 256 ∧
        text = (if 0 < index then ['.'] else []) ++ decimal octet ++ more ∧ Stops 10 more ∧
        readOctets left (index + 1) more = some (others, rest) := by
  rw [readOctets]
  constructor
  · intro taken
    split at taken
    · cases taken
    case h_2 octet more first =>
        split at taken
        · cases taken
        case h_2 others last later =>
            cases taken
            obtain ⟨digits, rfl, read⟩ := separated_eq_some_iff.mp first
            obtain ⟨rfl, stops, small⟩ := readOctet_eq_some_iff.mp read
            exact ⟨octet, others, more, rfl, small, (List.append_assoc _ _ _).symm, stops, later⟩
  · rintro ⟨octet, others, more, rfl, small, rfl, stops, later⟩
    have read := readOctet_eq_some_iff.mpr ⟨rfl, stops, small⟩
    rw [List.append_assoc, separated_append '.' index read]
    dsimp only
    rw [later]

/-- So many octets are read as they are displayed, with points between them. -/
theorem readOctets_eq_some_iff {left index : Nat} {text rest : Text} {octets : List Nat} :
    readOctets (left + 1) index text = some (octets, rest) ↔
      octets.length = left + 1 ∧ (∀ octet ∈ octets, octet < 256) ∧
        text = joinFrom '.' index (octets.map decimal) ++ rest ∧ Stops 10 rest := by
  induction left generalizing index text octets with
  | zero =>
      rw [readOctets_succ_eq_some_iff]
      constructor
      · rintro ⟨octet, others, more, rfl, small, rfl, stops, later⟩
        cases later
        exact ⟨rfl, by simpa using small, by simp [joinFrom], stops⟩
      · rintro ⟨one, small, rfl, stops⟩
        obtain ⟨octet, rfl⟩ := List.length_eq_one_iff.mp one
        exact ⟨octet, [], rest, rfl, small octet List.mem_cons_self, by simp [joinFrom], stops, rfl⟩
  | succ left ih =>
      rw [readOctets_succ_eq_some_iff]
      constructor
      · rintro ⟨octet, others, more, rfl, small, rfl, stops, later⟩
        obtain ⟨many, smallToo, rfl, stopsThen⟩ := ih.mp later
        refine ⟨by rw [List.length_cons, many], ?_, by simp [joinFrom], stopsThen⟩
        intro other member
        rcases List.mem_cons.mp member with rfl | later
        · exact small
        · exact smallToo other later
      · rintro ⟨many, small, rfl, stops⟩
        cases octets with
        | nil => cases many
        | cons octet others =>
            have fewer : others.length = left + 1 := by simpa using many
            have later : readOctets (left + 1) (index + 1)
                (joinFrom '.' (index + 1) (others.map decimal) ++ rest) = some (others, rest) :=
              ih.mpr ⟨fewer, fun other member => small other (List.mem_cons_of_mem _ member), rfl,
                stops⟩
            refine ⟨octet, others, _, rfl, small octet List.mem_cons_self, by simp [joinFrom], ?_,
              later⟩
            cases others with
            | nil => cases fewer
            | cons next others => exact stops_cons (by decide) _

theorem formatIpv4_eq (ip : BitVec 32) :
    formatIpv4 ip = joinFrom '.' 0
      ([ip.toNat >>> 24 % 256, ip.toNat >>> 16 % 256, ip.toNat >>> 8 % 256,
        ip.toNat >>> 0 % 256].map decimal) := by
  rw [joinFrom_zero]
  rfl

theorem ofParts_octets (ip : BitVec 32) :
    ofParts 32 256 [ip.toNat >>> 24 % 256, ip.toNat >>> 16 % 256, ip.toNat >>> 8 % 256,
      ip.toNat >>> 0 % 256] = ip := by
  apply BitVec.eq_of_toNat_eq
  have bound := ip.isLt
  simp only [ofParts, List.foldl_cons, List.foldl_nil, BitVec.toNat_ofNat,
    Nat.shiftRight_eq_div_pow]
  omega

theorem octets_ofParts {first second third fourth : Nat} (small : first < 256)
    (smallSecond : second < 256) (smallThird : third < 256) (smallFourth : fourth < 256) :
    let ip := ofParts 32 256 [first, second, third, fourth]
    [ip.toNat >>> 24 % 256, ip.toNat >>> 16 % 256, ip.toNat >>> 8 % 256, ip.toNat >>> 0 % 256] =
      [first, second, third, fourth] := by
  simp only [ofParts, List.foldl_cons, List.foldl_nil, BitVec.toNat_ofNat,
    Nat.shiftRight_eq_div_pow, List.cons.injEq, and_true]
  omega

/-- An IPv4 address is read from its display and from nothing else. -/
theorem readIpv4Addr_eq_some_iff {text rest : Text} {ip : BitVec 32} :
    readIpv4Addr text = some (ip, rest) ↔ text = formatIpv4 ip ++ rest ∧ Stops 10 rest := by
  rw [formatIpv4_eq, readIpv4Addr]
  constructor
  · intro taken
    split at taken
    · cases taken
    case h_2 octets last read =>
        cases taken
        obtain ⟨four, small, rfl, stops⟩ := readOctets_eq_some_iff.mp read
        match octets, four with
        | [first, second, third, fourth], _ =>
            rw [octets_ofParts (small first (by simp)) (small second (by simp))
              (small third (by simp)) (small fourth (by simp))]
            exact ⟨rfl, stops⟩
  · rintro ⟨rfl, stops⟩
    rw [readOctets_eq_some_iff.mpr ⟨rfl, ?_, rfl, stops⟩]
    · dsimp only
      rw [ofParts_octets]
    · intro octet member
      simp only [List.mem_cons, List.not_mem_nil, or_false] at member
      omega

/-! ## IPv6 addresses -/

theorem allDigits_hex {digits : Text} (all : AllDigits 10 digits) : AllDigits 16 digits := by
  intro char member
  obtain ⟨digit, found⟩ := Option.isSome_iff_exists.mp (all char member)
  obtain ⟨rfl, small⟩ := digitChar_of_toDigit found
  rw [toDigit_digitChar le_rfl (by omega)]
  rfl

theorem allDigits_nil (radix : Nat) : AllDigits radix [] :=
  List.forall_mem_nil _

theorem stops_decimal {rest : Text} (stops : Stops 16 rest) : Stops 10 rest := by
  intro char atHead
  by_contra isDigit
  have all : AllDigits 10 [char] := by
    intro other member
    rw [List.mem_singleton.mp member]
    exact Option.isSome_iff_ne_none.mpr isDigit
  have found := allDigits_hex all char List.mem_cons_self
  rw [stops char atHead] at found
  cases found

/-- The first octet of a displayed address, and the point after it. -/
theorem formatIpv4_cons (ip : BitVec 32) :
    ∃ octet more, formatIpv4 ip = decimal octet ++ '.' :: more := by
  refine ⟨ip.toNat >>> 24 % 256, joinFrom '.' 0
    ([ip.toNat >>> 16 % 256, ip.toNat >>> 8 % 256, ip.toNat >>> 0 % 256].map decimal), ?_⟩
  rw [formatIpv4_eq]
  simp [joinFrom]

/-- Hexadecimal digits, or none, that no point follows are not an IPv4
address. -/
theorem readIpv4Addr_of_hex {digits rest : Text} (all : AllDigits 16 digits)
    (stops : Stops 16 rest) (noPoint : rest.head? ≠ some '.') :
    readIpv4Addr (digits ++ rest) = none := by
  cases read : readIpv4Addr (digits ++ rest) with
  | none => rfl
  | some result =>
      obtain ⟨ip, last⟩ := result
      obtain ⟨same, _⟩ := readIpv4Addr_eq_some_iff.mp read
      obtain ⟨octet, more, front⟩ := formatIpv4_cons ip
      rw [front, List.append_assoc] at same
      have octetDigits := allDigits_hex (allDigits_toDigits octet)
      have point : Stops 16 ('.' :: more ++ last) := stops_cons (by decide) _
      obtain ⟨_, rfl⟩ := digits_unique all octetDigits stops point same
      exact absurd rfl noPoint

/-- A group as it is displayed. -/
theorem readGroup {segment : Nat} {rest : Text} (small : segment < 65536)
    (stops : Stops 16 rest) :
    number u16Limit 16 (some 4) true (Nat.toDigits 16 segment ++ rest) = some (segment, rest) := by
  apply number_toDigits (by decide) le_rfl small _ stops
  intro most four
  cases four
  exact ⟨by decide, small⟩

/-- Where the groups end: neither a digit nor a point nor another group
follows. -/
structure EndsGroups (rest : Text) : Prop where
  stops : Stops 16 rest
  noPoint : rest.head? ≠ some '.'
  noGroup : ∀ tail, rest = ':' :: tail → Stops 16 tail ∧ tail.head? ≠ some '.'

theorem stops_number {limit : Nat} {maxDigits : Option Nat} {rest : Text}
    (limitPositive : 0 < limit) (stops : Stops 16 rest) :
    number limit 16 maxDigits true rest = none := by
  cases read : number limit 16 maxDigits true rest with
  | none => rfl
  | some result =>
      obtain ⟨value, last⟩ := result
      obtain ⟨digits, rfl, stopsThen, numeral⟩ :=
        (number_eq_some_iff (by decide) limitPositive).mp read
      obtain ⟨rfl, _⟩ := digits_unique (allDigits_nil 16) numeral.all stops stopsThen rfl
      exact absurd rfl numeral.nonempty

theorem EndsGroups.separated {α : Type} {index : Nat} {inner : Scanner α} {rest : Text}
    (ends : EndsGroups rest)
    (fails : ∀ text, Stops 16 text → text.head? ≠ some '.' → inner text = none) :
    separated ':' index inner rest = none := by
  cases index with
  | zero => exact fails rest ends.stops ends.noPoint
  | succ index =>
      cases rest with
      | nil => rfl
      | cons head tail =>
          by_cases colon : head = ':'
          · subst colon
            obtain ⟨stops, noPoint⟩ := ends.noGroup tail rfl
            rw [separated_succ]
            exact fails tail stops noPoint
          · simp [Scanner.separated, givenChar, colon]

theorem readGroups_ends {left index : Nat} {rest : Text} (ends : EndsGroups rest) :
    readGroups left index rest = ([], false, rest) := by
  cases left with
  | zero => rfl
  | succ left =>
      have noIpv4 : Scanner.separated ':' index readIpv4Addr rest = none :=
        ends.separated fun text => readIpv4Addr_of_hex (allDigits_nil 16)
      have noGroup : Scanner.separated ':' index (number u16Limit 16 (some 4) true) rest = none :=
        ends.separated fun text stops _ => stops_number (by decide) stops
      rw [readGroups, noIpv4, ite_self, noGroup]

/-- One more group is read as it is displayed. -/
theorem readGroups_cons {left index segment : Nat} {more : Text} (small : segment < 65536)
    (stops : Stops 16 more) (noPoint : more.head? ≠ some '.') :
    readGroups (left + 1) index
        ((if 0 < index then [':'] else []) ++ Nat.toDigits 16 segment ++ more) =
      let (groups, ipv4, last) := readGroups left (index + 1) more
      (segment :: groups, ipv4, last) := by
  have noIpv4 : Scanner.separated ':' index readIpv4Addr
      ((if 0 < index then [':'] else []) ++ Nat.toDigits 16 segment ++ more) = none := by
    cases read : Scanner.separated ':' index readIpv4Addr
      ((if 0 < index then [':'] else []) ++ Nat.toDigits 16 segment ++ more) with
    | none => rfl
    | some result =>
        obtain ⟨ip, last⟩ := result
        obtain ⟨text, same, found⟩ := separated_eq_some_iff.mp read
        rw [List.append_assoc] at same
        rw [← List.append_cancel_left same,
          readIpv4Addr_of_hex (toDigits_spec (by decide) le_rfl segment).1 stops noPoint] at found
        cases found
  rw [readGroups, noIpv4, ite_self, List.append_assoc,
    separated_append ':' index (readGroup small stops)]

/-- Groups are read as they are displayed, up to where they end. -/
theorem readGroups_join {left : Nat} (index : Nat) {segments : List Nat} {rest : Text}
    (few : segments.length ≤ left) (small : ∀ segment ∈ segments, segment < 65536)
    (ends : EndsGroups rest) :
    readGroups left index (joinFrom ':' index (segments.map (Nat.toDigits 16)) ++ rest) =
      (segments, false, rest) := by
  induction segments generalizing left index with
  | nil => exact readGroups_ends ends
  | cons segment segments ih =>
      cases left with
      | zero => cases few
      | succ left =>
          have fewer : segments.length ≤ left := Nat.le_of_succ_le_succ few
          have later := ih (index + 1) fewer fun other member =>
            small other (List.mem_cons_of_mem _ member)
          let more := joinFrom ':' (index + 1) (segments.map (Nat.toDigits 16)) ++ rest
          have stops : Stops 16 more ∧ more.head? ≠ some '.' := by
            cases segments with
            | nil => exact ⟨ends.stops, ends.noPoint⟩
            | cons next segments => exact ⟨stops_cons (by decide) _, by simp [more, joinFrom]⟩
          rw [List.map_cons, joinFrom, List.append_assoc,
            readGroups_cons (small segment List.mem_cons_self) stops.1 stops.2, later]

/-- A run of zero groups: where it starts and how long it is. -/
def ZeroRun (segments : List Nat) (run : Nat × Nat) : Prop :=
  ∀ position, run.1 ≤ position → position < run.1 + run.2 → segments[position]? = some 0

theorem zeroRun_empty (segments : List Nat) (start : Nat) : ZeroRun segments (start, 0) := by
  intro position after before
  omega

/-- The longest run is one of the groups that were seen. -/
theorem zeroRun_longestZeroes {all segments : List Nat} {index : Nat}
    {longest current : Nat × Nat} (seen : all.drop index = segments)
    (longestRun : ZeroRun all longest) (currentRun : ZeroRun all current)
    (here : current.2 ≠ 0 → current.1 + current.2 = index) :
    ZeroRun all (longestZeroes segments index longest current) := by
  induction segments generalizing index longest current with
  | nil => exact longestRun
  | cons segment segments ih =>
      have inside : index < all.length := by
        by_contra beyond
        rw [List.drop_eq_nil_of_le (Nat.le_of_not_lt beyond)] at seen
        cases seen
      rw [List.drop_eq_getElem_cons inside, List.cons.injEq] at seen
      obtain ⟨value, seenThen⟩ := seen
      rw [longestZeroes]
      split
      case isTrue zero =>
          let next : Nat × Nat := (if current.2 = 0 then index else current.1, current.2 + 1)
          have ended : next.1 + next.2 = index + 1 := by
            by_cases fresh : current.2 = 0
            · simp only [next, fresh, if_true]
            · have before := here fresh
              simp only [next, fresh, if_false]
              omega
          have nextRun : ZeroRun all next := by
            intro position after before
            by_cases last : position = index
            · rw [last, List.getElem?_eq_getElem inside, value, zero]
            · by_cases fresh : current.2 = 0
              · simp only [next, fresh, if_true] at after
                omega
              · simp only [next, fresh, if_false] at after
                have start := here fresh
                exact currentRun position after (by omega)
          have longer : ZeroRun all (if longest.2 < next.2 then next else longest) := by
            by_cases more : longest.2 < next.2
            · rw [if_pos more]
              exact nextRun
            · rw [if_neg more]
              exact longestRun
          exact ih seenThen longer nextRun fun _ => ended
      case isFalse =>
          exact ih seenThen longestRun (zeroRun_empty all 0) fun some => absurd rfl some

/-- Groups around a run of zero groups. -/
theorem zeroRun_split {segments : List Nat} {start length : Nat}
    (run : ZeroRun segments (start, length)) (some : 0 < length) :
    start + length ≤ segments.length ∧
      segments.take start ++ List.replicate length 0 ++ segments.drop (start + length) =
        segments := by
  have last := run (start + length - 1) (by dsimp only; omega) (by dsimp only; omega)
  obtain ⟨inside, _⟩ := List.getElem?_eq_some_iff.mp last
  have fits : start + length ≤ segments.length := by omega
  have zeros : (segments.drop start).take length = List.replicate length 0 := by
    apply List.eq_replicate_iff.mpr
    constructor
    · rw [List.length_take, List.length_drop]
      omega
    · intro segment member
      obtain ⟨position, bound, rfl⟩ := List.getElem_of_mem member
      rw [List.length_take, List.length_drop] at bound
      have zero := run (start + position) (by dsimp only; omega) (by dsimp only; omega)
      rw [List.getElem_take, List.getElem_drop]
      rw [List.getElem?_eq_getElem (by omega), Option.some.injEq] at zero
      exact zero
  refine ⟨fits, ?_⟩
  rw [← zeros, ← List.drop_drop, List.append_assoc, List.take_append_drop,
    List.take_append_drop]

theorem ofParts_segments (ip : BitVec 128) : ofParts 128 65536 (ipv6Segments ip) = ip := by
  apply BitVec.eq_of_toNat_eq
  have bound := ip.isLt
  simp only [ofParts, ipv6Segments, List.map_cons, List.map_nil, List.foldl_cons,
    List.foldl_nil, BitVec.toNat_ofNat, Nat.shiftRight_eq_div_pow]
  omega

theorem length_ipv6Segments (ip : BitVec 128) : (ipv6Segments ip).length = 8 := rfl

theorem ipv6Segments_lt {ip : BitVec 128} {segment : Nat} (member : segment ∈ ipv6Segments ip) :
    segment < 65536 := by
  obtain ⟨shift, _, rfl⟩ := List.mem_map.mp member
  exact Nat.mod_lt _ (by decide)

theorem formatSegments_eq (segments : List Nat) :
    formatSegments segments = joinFrom ':' 0 (segments.map (Nat.toDigits 16)) :=
  (joinFrom_zero ':' _).symm

theorem endsGroups_colons (rest : Text) : EndsGroups (':' :: ':' :: rest) where
  stops := stops_cons (by decide) _
  noPoint := by simp
  noGroup := fun tail same => by
    rw [List.cons.injEq] at same
    rw [← same.2]
    exact ⟨stops_cons (by decide) _, by simp⟩

/-- The groups before and after the double colon. -/
theorem readIpv6Addr_of_groups {head tail : List Nat} {ipv4 : Bool} {text rest last : Text}
    (few : head.length < 8) (front : readGroups 8 0 text = (head, false, ':' :: ':' :: rest))
    (back : readGroups (8 - (head.length + 1)) 0 rest = (tail, ipv4, last)) :
    readIpv6Addr text =
      some (ofParts 128 65536
        (head ++ List.replicate (8 - head.length - tail.length) 0 ++ tail), last) := by
  rw [readIpv6Addr, front]
  dsimp only
  rw [if_neg (by omega), if_neg (by simp)]
  simp only [back]

/-- An address whose zero groups are left out. -/
theorem readIpv6Addr_compressed {head tail : List Nat} {rest : Text}
    (few : head.length + tail.length + 2 ≤ 8) (small : ∀ segment ∈ head, segment < 65536)
    (smallToo : ∀ segment ∈ tail, segment < 65536) (ends : EndsGroups rest) :
    readIpv6Addr (formatSegments head ++ "::".toList ++ (formatSegments tail ++ rest)) =
      some (ofParts 128 65536
        (head ++ List.replicate (8 - head.length - tail.length) 0 ++ tail), rest) := by
  have front : readGroups 8 0
      (formatSegments head ++ ':' :: ':' :: (formatSegments tail ++ rest)) =
        (head, false, ':' :: ':' :: (formatSegments tail ++ rest)) := by
    rw [formatSegments_eq head]
    exact readGroups_join 0 (by omega) small (endsGroups_colons _)
  have back : readGroups (8 - (head.length + 1)) 0 (formatSegments tail ++ rest) =
      (tail, false, rest) := by
    rw [formatSegments_eq tail]
    exact readGroups_join 0 (by omega) smallToo ends
  rw [List.append_assoc]
  exact readIpv6Addr_of_groups (by omega) front back

theorem readIpv6Addr_full {segments : List Nat} {rest : Text} (eight : segments.length = 8)
    (small : ∀ segment ∈ segments, segment < 65536) (ends : EndsGroups rest) :
    readIpv6Addr (formatSegments segments ++ rest) = some (ofParts 128 65536 segments, rest) := by
  have groups : readGroups 8 0 (formatSegments segments ++ rest) = (segments, false, rest) := by
    rw [formatSegments_eq]
    exact readGroups_join 0 (by omega) small ends
  rw [readIpv6Addr, groups]
  dsimp only
  rw [if_pos eight]

/-- An IPv4 address in the last two groups. -/
theorem readIpv6Addr_mapped {ip : BitVec 32} {rest : Text} (stops : Stops 10 rest) :
    readIpv6Addr ("::ffff:".toList ++ (formatIpv4 ip ++ rest)) =
      some (ofParts 128 65536 [0, 0, 0, 0, 0, 65535, ip.toNat >>> 16, ip.toNat % 65536],
        rest) := by
  have address : readIpv4Addr (formatIpv4 ip ++ rest) = some (ip, rest) :=
    readIpv4Addr_eq_some_iff.mpr ⟨rfl, stops⟩
  have last : readGroups 6 1 (':' :: (formatIpv4 ip ++ rest)) =
      ([ip.toNat >>> 16, ip.toNat % 65536], true, rest) := by
    rw [readGroups, if_pos (by decide), separated_succ, address]
  have back : readGroups 7 0 (Nat.toDigits 16 65535 ++ ':' :: (formatIpv4 ip ++ rest)) =
      ([65535, ip.toNat >>> 16, ip.toNat % 65536], true, rest) := by
    have group := @readGroups_cons 6 0 65535 (':' :: (formatIpv4 ip ++ rest)) (by decide)
      (stops_cons (by decide) _) (by simp)
    rw [last] at group
    exact group
  have front : readGroups 8 0 ("::ffff:".toList ++ (formatIpv4 ip ++ rest)) =
      ([], false, ':' :: ':' :: (Nat.toDigits 16 65535 ++ ':' :: (formatIpv4 ip ++ rest))) :=
    readGroups_ends (endsGroups_colons _)
  exact readIpv6Addr_of_groups (by decide) front back

theorem ofParts_mapped {ip : BitVec 128} (mapped : ip.toNat >>> 32 = 0xffff) :
    ofParts 128 65536 [0, 0, 0, 0, 0, 65535, (ip.setWidth 32).toNat >>> 16,
      (ip.setWidth 32).toNat % 65536] = ip := by
  apply BitVec.eq_of_toNat_eq
  have bound := ip.isLt
  simp only [Nat.shiftRight_eq_div_pow] at mapped
  simp only [ofParts, List.foldl_cons, List.foldl_nil, BitVec.toNat_ofNat,
    BitVec.toNat_setWidth, Nat.shiftRight_eq_div_pow]
  omega

/-- What comes after an IPv6 address in a socket address. -/
structure AfterIpv6 (rest : Text) : Prop where
  head : rest.head? = some ']' ∨ rest.head? = some '%'

theorem AfterIpv6.ends {rest : Text} (after : AfterIpv6 rest) : EndsGroups rest := by
  cases rest with
  | nil => rcases after.head with none | none <;> cases none
  | cons head tail =>
      have bracket : head = ']' ∨ head = '%' := by simpa using after.head
      constructor
      · rcases bracket with rfl | rfl
        · exact stops_cons (by decide) tail
        · exact stops_cons (by decide) tail
      · rcases bracket with rfl | rfl <;> simp
      · intro more same
        rcases bracket with rfl | rfl <;> cases same

/-- An IPv6 address is read back from its display. -/
theorem readIpv6Addr_format (ip : BitVec 128) {rest : Text} (after : AfterIpv6 rest) :
    readIpv6Addr (formatIpv6 ip ++ rest) = some (ip, rest) := by
  have ends := after.ends
  have small : ∀ segment ∈ ipv6Segments ip, segment < 65536 := fun _ => ipv6Segments_lt
  unfold formatIpv6
  split
  case isTrue mapped =>
      rw [List.append_assoc, readIpv6Addr_mapped (stops_decimal ends.stops),
        ofParts_mapped mapped]
  case isFalse =>
      dsimp only
      have run : ZeroRun (ipv6Segments ip) (longestZeroes (ipv6Segments ip) 0 (0, 0) (0, 0)) :=
        zeroRun_longestZeroes rfl (zeroRun_empty _ 0) (zeroRun_empty _ 0)
          fun some => absurd rfl some
      generalize longestZeroes (ipv6Segments ip) 0 (0, 0) (0, 0) = longest at run
      obtain ⟨start, length⟩ := longest
      split
      case isTrue long =>
          dsimp only at long ⊢
          obtain ⟨inside, split⟩ := zeroRun_split run (by omega)
          rw [length_ipv6Segments] at inside
          have taken : ((ipv6Segments ip).take start).length = start := by
            rw [List.length_take, length_ipv6Segments]
            omega
          have dropped : ((ipv6Segments ip).drop (start + length)).length =
              8 - (start + length) := by
            rw [List.length_drop, length_ipv6Segments]
          have zeros : 8 - ((ipv6Segments ip).take start).length -
              ((ipv6Segments ip).drop (start + length)).length = length := by omega
          rw [List.append_assoc, readIpv6Addr_compressed (by omega)
            (fun segment member => small segment (List.mem_of_mem_take member))
            (fun segment member => small segment (List.mem_of_mem_drop member)) ends, zeros, split,
            ofParts_segments]
      case isFalse =>
          rw [readIpv6Addr_full rfl small ends, ofParts_segments]

/-! ## Socket addresses -/

theorem givenChar_cons (target : Char) (rest : Text) :
    givenChar target (target :: rest) = some ((), rest) := by
  simp [givenChar]

theorem ofNat_toNat_self {width : Nat} (bits : BitVec width) :
    BitVec.ofNat width bits.toNat = bits := by
  rw [BitVec.ofNat_toNat, BitVec.setWidth_eq]

/-- A port is a number of any length. -/
theorem readPort_eq_some_iff {text rest : Text} {port : BitVec 16} :
    readPort text = some (port, rest) ↔
      ∃ digits, text = ':' :: digits ++ rest ∧ Stops 10 rest ∧ digits ≠ [] ∧
        AllDigits 10 digits ∧ digitsValue 10 0 digits = port.toNat := by
  cases text with
  | nil => simp [readPort, givenChar]
  | cons head tail =>
      by_cases colon : head = ':'
      · subst colon
        rw [readPort, givenChar_cons]
        simp only [Option.map_eq_some_iff, Prod.exists, Prod.mk.injEq]
        constructor
        · rintro ⟨value, last, read, rfl, rfl⟩
          obtain ⟨digits, rfl, stops, numeral⟩ :=
            (number_eq_some_iff (by decide) (by decide)).mp read
          refine ⟨digits, rfl, stops, numeral.nonempty, numeral.all, ?_⟩
          rw [numeral.reads, BitVec.toNat_ofNat]
          exact (Nat.mod_eq_of_lt numeral.fits).symm
        · rintro ⟨digits, same, stops, nonempty, all, value⟩
          rw [List.cons_append, List.cons.injEq] at same
          refine ⟨port.toNat, rest, ?_, ofNat_toNat_self port, rfl⟩
          rw [same.2, number_eq_some_iff (by decide) (by decide)]
          exact ⟨digits, rfl, stops, nonempty, all, value, port.isLt, nofun, nofun⟩
      · simp [readPort, givenChar, colon]

/-- A displayed port is read back. -/
theorem readPort_decimal (port : BitVec 16) :
    readPort (':' :: decimal port.toNat) = some (port, []) := by
  have spec := toDigits_spec (by decide : 1 < 10) (by decide) port.toNat
  refine readPort_eq_some_iff.mpr ⟨decimal port.toNat, ?_, stops_nil 10, Nat.toDigits_ne_nil,
    spec.1, spec.2.1⟩
  rw [List.append_nil]

theorem readScopeId_decimal (scopeId : BitVec 32) {rest : Text} (stops : Stops 10 rest) :
    readScopeId ('%' :: decimal scopeId.toNat ++ rest) = some (scopeId, rest) := by
  have read : number u32Limit 10 none true (decimal scopeId.toNat ++ rest) =
      some (scopeId.toNat, rest) :=
    number_toDigits (by decide) (by decide) scopeId.isLt nofun stops
  rw [readScopeId, List.cons_append, givenChar_cons]
  dsimp only
  rw [read, Option.map_some, ofNat_toNat_self]

/-- The address without its flow information. -/
def SocketAddr.shown : SocketAddr → SocketAddr
  | .v4 ip port => .v4 ip port
  | .v6 ip port _ scopeId => .v6 ip port 0 scopeId

theorem fromStr_v4 (ip : BitVec 32) (port : BitVec 16) :
    SocketAddr.fromStr (formatAddr (.v4 ip port)) = some (.v4 ip port) := by
  have address : readIpv4Addr (formatIpv4 ip ++ ':' :: decimal port.toNat) =
      some (ip, ':' :: decimal port.toNat) :=
    readIpv4Addr_eq_some_iff.mpr ⟨rfl, stops_cons (by decide) _⟩
  rw [SocketAddr.fromStr, whole, formatAddr, readSocketAddr, readSocketAddrV4, address]
  dsimp only
  rw [readPort_decimal]
  rfl

/-- An address with or without its scope. -/
theorem readSocketAddrV6_bracketed {ip : BitVec 128} {port : BitVec 16} {scopeId : BitVec 32}
    (scope : Text)
    (address : readIpv6Addr (formatIpv6 ip ++ (scope ++ ']' :: ':' :: decimal port.toNat)) =
      some (ip, scope ++ ']' :: ':' :: decimal port.toNat))
    (reads : (readScopeId (scope ++ ']' :: ':' :: decimal port.toNat)).getD
        (0, scope ++ ']' :: ':' :: decimal port.toNat) =
      (scopeId, ']' :: ':' :: decimal port.toNat)) :
    readSocketAddrV6 ('[' :: (formatIpv6 ip ++ (scope ++ ']' :: ':' :: decimal port.toNat))) =
      some (.v6 ip port 0 scopeId, []) := by
  rw [readSocketAddrV6, givenChar_cons]
  dsimp only
  rw [address]
  dsimp only
  rw [reads]
  dsimp only
  rw [givenChar_cons]
  dsimp only
  rw [readPort_decimal, Option.map_some]

theorem fromStr_v6 (ip : BitVec 128) (port : BitVec 16) (flowinfo scopeId : BitVec 32) :
    SocketAddr.fromStr (formatAddr (.v6 ip port flowinfo scopeId)) =
      some (.v6 ip port 0 scopeId) := by
  have notV4 : ∀ tail, readSocketAddrV4 ('[' :: tail) = none := by
    intro tail
    have noIpv4 : readIpv4Addr ([] ++ '[' :: tail) = none :=
      readIpv4Addr_of_hex (allDigits_nil 16) (stops_cons (by decide) tail) (by simp)
    rw [List.nil_append] at noIpv4
    rw [readSocketAddrV4, noIpv4]
  let scope : Text := if scopeId = 0 then [] else '%' :: decimal scopeId.toNat
  have text : formatAddr (.v6 ip port flowinfo scopeId) =
      '[' :: (formatIpv6 ip ++ (scope ++ ']' :: ':' :: decimal port.toNat)) := by
    have closing : "]:".toList = [']', ':'] := rfl
    rw [formatAddr, closing]
    simp [scope]
  have v6 : readSocketAddrV6
      ('[' :: (formatIpv6 ip ++ (scope ++ ']' :: ':' :: decimal port.toNat))) =
        some (.v6 ip port 0 scopeId, []) := by
    by_cases unscoped : scopeId = 0
    · simp only [scope, if_pos unscoped]
      refine readSocketAddrV6_bracketed [] (readIpv6Addr_format ip ⟨.inl rfl⟩) ?_
      rw [unscoped]
      rfl
    · simp only [scope, if_neg unscoped]
      refine readSocketAddrV6_bracketed _ (readIpv6Addr_format ip ⟨.inr rfl⟩) ?_
      rw [readScopeId_decimal scopeId (stops_cons (by decide) _)]
      rfl
  rw [SocketAddr.fromStr, whole, text, readSocketAddr, notV4, v6]
  rfl

/-- An address is read back from its display, but for its flow information,
which does not show. -/
theorem fromStr_formatAddr (addr : SocketAddr) :
    SocketAddr.fromStr (formatAddr addr) = some addr.shown := by
  cases addr with
  | v4 ip port => exact fromStr_v4 ip port
  | v6 ip port flowinfo scopeId => exact fromStr_v6 ip port flowinfo scopeId

theorem readSocketAddrV4_eq_some_iff {text rest : Text} {addr : SocketAddr} :
    readSocketAddrV4 text = some (addr, rest) ↔
      ∃ ip port more, addr = .v4 ip port ∧ text = formatIpv4 ip ++ more ∧ Stops 10 more ∧
        readPort more = some (port, rest) := by
  rw [readSocketAddrV4]
  constructor
  · intro taken
    split at taken
    · cases taken
    case h_2 ip more address =>
        simp only [Option.map_eq_some_iff, Prod.exists, Prod.mk.injEq] at taken
        obtain ⟨port, last, read, rfl, rfl⟩ := taken
        obtain ⟨rfl, stops⟩ := readIpv4Addr_eq_some_iff.mp address
        exact ⟨ip, port, more, rfl, rfl, stops, read⟩
  · rintro ⟨ip, port, more, rfl, rfl, stops, read⟩
    rw [readIpv4Addr_eq_some_iff.mpr ⟨rfl, stops⟩]
    dsimp only
    rw [read, Option.map_some]

/-- No IPv4 socket address stands in brackets. -/
theorem readSocketAddrV6_ne_v4 {text rest : Text} {ip : BitVec 32} {port : BitVec 16} :
    readSocketAddrV6 text ≠ some (.v4 ip port, rest) := by
  intro taken
  rw [readSocketAddrV6] at taken
  split at taken
  · cases taken
  · split at taken
    · cases taken
    · dsimp only at taken
      split at taken
      · cases taken
      · obtain ⟨_, _, same⟩ := Option.map_eq_some_iff.mp taken
        cases same

theorem whole_eq_some_iff {α : Type} {inner : Scanner α} {text : Text} {value : α} :
    whole inner text = some value ↔ inner text = some (value, []) := by
  rw [whole]
  constructor
  · intro taken
    split at taken
    case h_1 found =>
        cases taken
        exact found
    case h_2 => cases taken
  · intro found
    rw [found]

/-- A read address has no flow information. -/
theorem shown_of_fromStr {text : Text} {addr : SocketAddr}
    (read : SocketAddr.fromStr text = some addr) : addr.shown = addr := by
  rw [SocketAddr.fromStr, whole_eq_some_iff, readSocketAddr, Option.or_eq_some_iff] at read
  rcases read with v4 | ⟨_, v6⟩
  · obtain ⟨ip, port, _, rfl, _⟩ := readSocketAddrV4_eq_some_iff.mp v4
    rfl
  · rw [readSocketAddrV6] at v6
    split at v6
    · cases v6
    · split at v6
      · cases v6
      · dsimp only at v6
        split at v6
        · cases v6
        · obtain ⟨_, _, same⟩ := Option.map_eq_some_iff.mp v6
          rw [← (Prod.mk.inj same).1]
          rfl

/-- What was read is read again from its display. -/
theorem fromStr_formatAddr_of_read {text : Text} {addr : SocketAddr}
    (read : SocketAddr.fromStr text = some addr) :
    SocketAddr.fromStr (formatAddr addr) = some addr := by
  rw [fromStr_formatAddr, shown_of_fromStr read]

/-- A number of a port, with any zeros before it. -/
theorem readPort_whole_iff {text : Text} {port : BitVec 16} :
    readPort text = some (port, []) ↔
      ∃ zeros, text = ':' :: (List.replicate zeros '0' ++ decimal port.toNat) := by
  rw [readPort_eq_some_iff]
  constructor
  · rintro ⟨digits, rfl, _, nonempty, all, value⟩
    obtain ⟨zeros, split⟩ := exists_zeros nonempty all
    rw [value] at split
    exact ⟨zeros, by rw [List.append_nil, split]; rfl⟩
  · rintro ⟨zeros, rfl⟩
    have spec := toDigits_spec (by decide : 1 < 10) (by decide) port.toNat
    refine ⟨_, (List.append_nil _).symm, stops_nil 10, ?_, ?_, ?_⟩
    · exact List.append_ne_nil_of_right_ne_nil _ Nat.toDigits_ne_nil
    · intro char member
      rcases List.mem_append.mp member with zero | digit
      · rw [(List.mem_replicate.mp zero).2]
        rfl
      · exact spec.1 char digit
    · rw [digitsValue_zeros]
      exact spec.2.1

/-- An accepted IPv4 socket address is a displayed one, with any zeros before its
port. -/
theorem fromStr_eq_v4_iff {text : Text} {ip : BitVec 32} {port : BitVec 16} :
    SocketAddr.fromStr text = some (.v4 ip port) ↔
      ∃ zeros, text =
        formatIpv4 ip ++ ':' :: (List.replicate zeros '0' ++ decimal port.toNat) := by
  rw [SocketAddr.fromStr, whole_eq_some_iff, readSocketAddr, Option.or_eq_some_iff]
  constructor
  · rintro (v4 | ⟨_, v6⟩)
    · obtain ⟨_, _, more, same, rfl, _, read⟩ := readSocketAddrV4_eq_some_iff.mp v4
      cases same
      obtain ⟨zeros, rfl⟩ := readPort_whole_iff.mp read
      exact ⟨zeros, rfl⟩
    · exact absurd v6 readSocketAddrV6_ne_v4
  · rintro ⟨zeros, rfl⟩
    have stops : Stops 10 (':' :: (List.replicate zeros '0' ++ decimal port.toNat)) :=
      stops_cons (by decide) _
    exact .inl (readSocketAddrV4_eq_some_iff.mpr
      ⟨ip, port, _, rfl, rfl, stops, readPort_whole_iff.mpr ⟨zeros, rfl⟩⟩)

end Mzani
