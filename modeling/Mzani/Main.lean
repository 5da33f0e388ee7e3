import Mzani.Balancer.ServerLog
import Mzani.Utils.AddrParser
import Mzani.Utils.Logger

/-!
# The entry point

The binary takes the addresses of its balancer from two variables of the
environment.  It fails with the first fault it meets, and the addresses that it
logs at its start make the same balancer again.
-/

namespace Mzani

open Support

variable {Stream : Type}

/-- `env::var(name).unwrap_or_else(|_| default.to_owned())` -/
def Environment.varOr (environment : Environment) (name : String) (default : Vec Char) : Vec Char :=
  (environment name).getD default

def defaultListen : Vec Char :=
  ⟨"127.0.0.1:8080".toList, by decide⟩

def defaultBackends : Vec Char :=
  ⟨"127.0.0.1:3333,127.0.0.1:3334".toList, by decide⟩

def invalidListen : MzaniError :=
  .parseError ("invalid MZANI_LISTEN: " ++ addrParseError)

def invalidBackend (trimmed : Text) : MzaniError :=
  .parseError ("invalid backend " ++ String.ofList trimmed ++ ": " ++ addrParseError)

def listenAddrFromEnv (environment : Environment) : MzaniResult SocketAddr :=
  let addrStr := environment.varOr "MZANI_LISTEN" defaultListen
  match SocketAddr.fromStr addrStr.val with
  | none => .error invalidListen
  | some listen => .ok listen

/-- The loop of `backends_from_env`. -/
def pushBackends (addrs : List SocketAddr) : (parts : List Text) → MzaniResult (List SocketAddr)
  | [] => .ok addrs
  | part :: parts =>
      let trimmed := trim part
      if trimmed = [] then pushBackends addrs parts
      else
        match SocketAddr.fromStr trimmed with
        | none => .error (invalidBackend trimmed)
        | some addr => pushBackends (addrs ++ [addr]) parts

/-- The parts of a list of backends that name one. -/
def backendTexts (parts : List Text) : List Text :=
  (parts.map trim).filter (· ≠ [])

section

variable {parts : List Text} {part : Text} {addrs all : List SocketAddr} {error : MzaniError}

theorem backendTexts_cons (part : Text) (parts : List Text) :
    backendTexts (part :: parts) =
      if trim part = [] then backendTexts parts else trim part :: backendTexts parts := by
  rw [backendTexts, List.map_cons, List.filter_cons]
  split
  case isTrue some => rw [if_neg (of_decide_eq_true some), backendTexts]
  case isFalse none => rw [if_pos (by simpa using none), backendTexts]

/-- All parts that name a backend are addresses, and these are added in order. -/
theorem pushBackends_eq_ok_iff :
    pushBackends addrs parts = .ok all ↔
      ∃ more, all = addrs ++ more ∧
        (backendTexts parts).map SocketAddr.fromStr = more.map some := by
  induction parts generalizing addrs with
  | nil =>
      have texts : backendTexts [] = [] := rfl
      simp only [pushBackends, Except.ok.injEq, texts, List.map_nil]
      constructor
      · rintro rfl
        exact ⟨[], (List.append_nil addrs).symm, rfl⟩
      · rintro ⟨more, rfl, none⟩
        rw [List.map_eq_nil_iff.mp none.symm, List.append_nil]
  | cons part parts ih =>
      rw [pushBackends, backendTexts_cons]
      by_cases blank : trim part = []
      · rw [if_pos blank, if_pos blank]
        exact ih
      · rw [if_neg blank, if_neg blank, List.map_cons]
        cases read : SocketAddr.fromStr (trim part) with
        | none =>
            refine iff_of_false (by simp) ?_
            rintro ⟨more, _, same⟩
            cases more with
            | nil => cases same
            | cons addr more => cases (List.cons.inj same).1
        | some addr =>
            dsimp only
            rw [ih]
            constructor
            · rintro ⟨more, rfl, same⟩
              exact ⟨addr :: more, by simp, by rw [same, List.map_cons]⟩
            · rintro ⟨more, rfl, same⟩
              cases more with
              | nil => cases same
              | cons first more =>
                  obtain ⟨here, later⟩ := List.cons.inj same
                  cases here
                  exact ⟨more, by simp, later⟩

/-- The first part that is no address is the error. -/
theorem pushBackends_eq_error_iff :
    pushBackends addrs parts = .error error ↔
      ∃ before text after, backendTexts parts = before ++ text :: after ∧
        (∀ earlier ∈ before, (SocketAddr.fromStr earlier).isSome) ∧
        SocketAddr.fromStr text = none ∧ error = invalidBackend text := by
  induction parts generalizing addrs with
  | nil => simp [pushBackends, backendTexts]
  | cons part parts ih =>
      rw [pushBackends, backendTexts_cons]
      by_cases blank : trim part = []
      · rw [if_pos blank, if_pos blank]
        exact ih
      · rw [if_neg blank, if_neg blank]
        cases read : SocketAddr.fromStr (trim part) with
        | none =>
            dsimp only
            rw [Except.error.injEq]
            constructor
            · rintro rfl
              exact ⟨[], trim part, backendTexts parts, rfl, List.forall_mem_nil _, read, rfl⟩
            · rintro ⟨before, text, after, split, good, _, rfl⟩
              cases before with
              | nil => rw [(List.cons.inj split).1]
              | cons first before =>
                  have named := good first List.mem_cons_self
                  rw [← (List.cons.inj split).1, read] at named
                  cases named
        | some addr =>
            dsimp only
            rw [ih]
            constructor
            · rintro ⟨before, text, after, split, good, bad, rfl⟩
              refine ⟨trim part :: before, text, after, by rw [split]; rfl, ?_, bad, rfl⟩
              rw [List.forall_mem_cons]
              exact ⟨by rw [read]; rfl, good⟩
            · rintro ⟨before, text, after, split, good, bad, rfl⟩
              cases before with
              | nil =>
                  rw [← (List.cons.inj split).1, read] at bad
                  cases bad
              | cons first before =>
                  obtain ⟨_, later⟩ := List.cons.inj split
                  exact ⟨before, text, after, later, (List.forall_mem_cons.mp good).2, bad, rfl⟩

/-- A text has no more parts with something in them than characters. -/
theorem length_backendTexts (raw : Text) :
    (backendTexts (raw.splitOn ',')).length ≤ raw.length := by
  have parts : ∀ parts : List Text, (backendTexts parts).length ≤ ([','].intercalate parts).length := by
    intro parts
    induction parts with
    | nil => exact Nat.zero_le _
    | cons part parts ih =>
        have some : (if trim part = [] then 0 else 1) ≤ part.length := by
          split
          · exact Nat.zero_le _
          case isFalse visible =>
              apply List.length_pos_iff.mpr
              rintro rfl
              exact visible rfl
        have here : (backendTexts (part :: parts)).length =
            (if trim part = [] then 0 else 1) + (backendTexts parts).length := by
          rw [backendTexts_cons]
          split <;> simp [Nat.add_comm]
        cases parts with
        | nil =>
            rw [here]
            simpa [backendTexts] using some
        | cons next parts =>
            rw [here, List.intercalate_cons_cons]
            simp only [List.length_append, List.length_singleton]
            omega
  have whole := parts (raw.splitOn ',')
  rw [List.intercalate_splitOn] at whole
  exact whole

theorem length_pushBackends {raw : Vec Char}
    (pushed : pushBackends [] (raw.val.splitOn ',') = .ok all) : all.length < 2 ^ 63 := by
  obtain ⟨_, rfl, same⟩ := pushBackends_eq_ok_iff.mp pushed
  have few := length_backendTexts raw.val
  have many := congrArg List.length same
  rw [List.length_map, List.length_map] at many
  have small := raw.property
  omega

end

def backendsFromEnv (environment : Environment) : MzaniResult (Vec SocketAddr) :=
  let raw := environment.varOr "MZANI_BACKENDS" defaultBackends
  match pushed : pushBackends [] (raw.val.splitOn ',') with
  | .error error => .error error
  | .ok addrs =>
      if addrs = [] then .error .emptyServerList
      else .ok ⟨addrs, length_pushBackends pushed⟩

/-- `main`, up to its accept loop. -/
def main (environment : Environment) (openLog : String → MzaniResult Unit) :
    MzaniResult (Server Stream) := do
  let listen ← listenAddrFromEnv environment
  let backends ← backendsFromEnv environment
  Server.build { listen, backends } openLog

/-! ## The faults -/

/-- The texts of the environment that name the backends. -/
def Environment.backendTexts (environment : Environment) : List Text :=
  Mzani.backendTexts ((environment.varOr "MZANI_BACKENDS" defaultBackends).val.splitOn ',')

section

variable {environment : Environment} {openLog : String → MzaniResult Unit} {error : MzaniError}
  {config : BalancerConfig}

theorem listenAddrFromEnv_eq_ok_iff {listen : SocketAddr} :
    listenAddrFromEnv environment = .ok listen ↔
      SocketAddr.fromStr (environment.varOr "MZANI_LISTEN" defaultListen).val = some listen := by
  rw [listenAddrFromEnv]
  cases SocketAddr.fromStr (environment.varOr "MZANI_LISTEN" defaultListen).val with
  | none => simp
  | some addr => simp

theorem listenAddrFromEnv_eq_error_iff :
    listenAddrFromEnv environment = .error error ↔
      SocketAddr.fromStr (environment.varOr "MZANI_LISTEN" defaultListen).val = none ∧
        error = invalidListen := by
  rw [listenAddrFromEnv]
  cases SocketAddr.fromStr (environment.varOr "MZANI_LISTEN" defaultListen).val with
  | none => simp [eq_comm]
  | some addr => simp

theorem backendsFromEnv_eq_ok_iff {backends : Vec SocketAddr} :
    backendsFromEnv environment = .ok backends ↔
      environment.backendTexts.map SocketAddr.fromStr = backends.val.map some ∧
        backends.val ≠ [] := by
  rw [backendsFromEnv]
  split
  case h_1 fault failed =>
      refine iff_of_false (by simp) ?_
      rintro ⟨same, _⟩
      obtain ⟨before, text, after, split, _, bad, _⟩ := pushBackends_eq_error_iff.mp failed
      change environment.backendTexts = _ at split
      have member : SocketAddr.fromStr text ∈ environment.backendTexts.map SocketAddr.fromStr :=
        List.mem_map_of_mem (by rw [split]; simp)
      rw [same, bad] at member
      simp at member
  case h_2 addrs pushed =>
      obtain ⟨_, rfl, read⟩ := pushBackends_eq_ok_iff.mp pushed
      change environment.backendTexts.map SocketAddr.fromStr = addrs.map some at read
      rw [read, List.map_inj_right fun _ _ => Option.some.inj]
      split
      case isTrue empty =>
          refine iff_of_false (by simp) ?_
          rintro ⟨same, some⟩
          exact some (same ▸ empty)
      case isFalse some =>
          rw [Except.ok.injEq, Subtype.ext_iff]
          constructor
          · intro same
            exact ⟨same, same ▸ some⟩
          · exact And.left

theorem backendsFromEnv_eq_error_iff :
    backendsFromEnv environment = .error error ↔
      (environment.backendTexts = [] ∧ error = .emptyServerList) ∨
        ∃ before text after, environment.backendTexts = before ++ text :: after ∧
          (∀ earlier ∈ before, (SocketAddr.fromStr earlier).isSome) ∧
          SocketAddr.fromStr text = none ∧ error = invalidBackend text := by
  rw [backendsFromEnv]
  split
  case h_1 fault failed =>
      rw [Except.error.injEq]
      constructor
      · rintro rfl
        exact .inr (pushBackends_eq_error_iff.mp failed)
      · rintro (⟨none, _⟩ | some)
        · obtain ⟨before, text, after, split, _⟩ := pushBackends_eq_error_iff.mp failed
          change environment.backendTexts = _ at split
          rw [none] at split
          simp at split
        · have again : pushBackends [] _ = .error error := pushBackends_eq_error_iff.mpr some
          rw [failed, Except.error.injEq] at again
          exact again
  case h_2 addrs pushed =>
      have readable : ¬∃ before text after, environment.backendTexts = before ++ text :: after ∧
          (∀ earlier ∈ before, (SocketAddr.fromStr earlier).isSome) ∧
          SocketAddr.fromStr text = none ∧ error = invalidBackend text := by
        intro bad
        have failed : pushBackends [] _ = .error error := pushBackends_eq_error_iff.mpr bad
        rw [pushed] at failed
        cases failed
      obtain ⟨_, rfl, read⟩ := pushBackends_eq_ok_iff.mp pushed
      change environment.backendTexts.map SocketAddr.fromStr = addrs.map some at read
      rw [or_iff_left readable]
      have empty : environment.backendTexts = [] ↔ addrs = [] := by
        rw [← List.map_eq_nil_iff, read, List.map_eq_nil_iff]
      rw [empty]
      split
      case isTrue none => simp [none, eq_comm]
      case isFalse some => simp [some]

/-- What the environment configures. -/
structure Environment.Configures (environment : Environment) (config : BalancerConfig) : Prop where
  listen : SocketAddr.fromStr (environment.varOr "MZANI_LISTEN" defaultListen).val =
    some config.listen
  backends : environment.backendTexts.map SocketAddr.fromStr = config.backends.val.map some
  nonempty : config.backends.val ≠ []
  others : config = { listen := config.listen, backends := config.backends }

/-- The first fault on the way to a balancer. -/
inductive Environment.Fault (environment : Environment) (openLog : String → MzaniResult Unit) :
    MzaniError → Prop where
  | listen
      (bad : SocketAddr.fromStr (environment.varOr "MZANI_LISTEN" defaultListen).val = none) :
      Fault environment openLog invalidListen
  | noBackend {listen : SocketAddr}
      (good : SocketAddr.fromStr (environment.varOr "MZANI_LISTEN" defaultListen).val =
        some listen)
      (none : environment.backendTexts = []) : Fault environment openLog .emptyServerList
  | backend {listen : SocketAddr} {before after : List Text} {text : Text}
      (good : SocketAddr.fromStr (environment.varOr "MZANI_LISTEN" defaultListen).val =
        some listen)
      (split : environment.backendTexts = before ++ text :: after)
      (goodBefore : ∀ earlier ∈ before, (SocketAddr.fromStr earlier).isSome)
      (bad : SocketAddr.fromStr text = none) : Fault environment openLog (invalidBackend text)
  | log {config : BalancerConfig} {error : MzaniError}
      (configures : environment.Configures config)
      (closed : openLog config.logDir = .error error) : Fault environment openLog error

theorem Environment.Configures.valid (configures : environment.Configures config) :
    config.validate = .ok () := by
  rw [configures.others]
  exact (validate_default_iff config.backends).mpr configures.nonempty

theorem Server.build_eq_error (valid : config.validate = .ok ())
    (closed : openLog config.logDir = .error error) :
    (Server.build config openLog : MzaniResult (Server Stream)) = .error error := by
  have poolValid := ((BalancerConfig.validate_eq_ok_iff config).mp valid).2.2.2
  have refused : (ThreadPool.new config.pool false (openLog config.logDir) :
      MzaniResult (ThreadPool Stream)) = .error error := by
    unfold ThreadPool.new
    split
    case h_1 invalid =>
        rw [poolValid] at invalid
        cases invalid
    case h_2 => rw [closed]
  unfold Server.build
  split
  case h_1 invalid =>
      rw [valid] at invalid
      cases invalid
  case h_2 =>
      simp only [RoutedContext.fromConfig, valid]
      dsimp only [bind, Except.bind]
      rw [refused]

theorem main_of_configures (configures : environment.Configures config) :
    (main environment openLog : MzaniResult (Server Stream)) = Server.build config openLog := by
  rw [main, listenAddrFromEnv_eq_ok_iff.mpr configures.listen,
    backendsFromEnv_eq_ok_iff.mpr ⟨configures.backends, configures.nonempty⟩]
  exact congrArg (fun config => Server.build config openLog) configures.others.symm

/-- The environment configures a balancer, or there is a first fault in it. -/
theorem Environment.configures_or (environment : Environment)
    (openLog : String → MzaniResult Unit) :
    (∃ config, environment.Configures config) ∨
      ∃ error, environment.Fault openLog error ∧ ∀ Stream : Type,
        (main environment openLog : MzaniResult (Server Stream)) = .error error := by
  cases listening : listenAddrFromEnv environment with
  | error error =>
      obtain ⟨bad, rfl⟩ := listenAddrFromEnv_eq_error_iff.mp listening
      refine .inr ⟨_, .listen bad, fun Stream => ?_⟩
      rw [main, listening]
      rfl
  | ok listen =>
      have good := listenAddrFromEnv_eq_ok_iff.mp listening
      cases naming : backendsFromEnv environment with
      | error error =>
          have stopped (Stream : Type) :
              (main environment openLog : MzaniResult (Server Stream)) = .error error := by
            rw [main, listening, naming]
            rfl
          rcases backendsFromEnv_eq_error_iff.mp naming with
            ⟨none, rfl⟩ | ⟨before, text, after, split, goodBefore, bad, rfl⟩
          · exact .inr ⟨_, .noBackend good none, stopped⟩
          · exact .inr ⟨_, .backend good split goodBefore bad, stopped⟩
      | ok backends =>
          obtain ⟨same, nonempty⟩ := backendsFromEnv_eq_ok_iff.mp naming
          exact .inl ⟨{ listen, backends }, good, same, nonempty, rfl⟩

/-- The binary has a balancer if the environment configures one and its log file
opens. -/
theorem main_eq_ok_iff {server : Server Stream} :
    main environment openLog = .ok server ↔
      ∃ config, environment.Configures config ∧ Server.build config openLog = .ok server := by
  constructor
  · intro started
    rcases environment.configures_or openLog with ⟨config, configures⟩ | ⟨error, _, failed⟩
    · rw [main_of_configures configures] at started
      exact ⟨config, configures, started⟩
    · rw [failed Stream] at started
      cases started
  · rintro ⟨config, configures, built⟩
    rw [main_of_configures configures]
    exact built

/-- No other fault is there first. -/
theorem Environment.Fault.main_eq (fault : environment.Fault openLog error) :
    (main environment openLog : MzaniResult (Server Stream)) = .error error := by
  cases fault with
  | listen bad =>
      rw [main, listenAddrFromEnv_eq_error_iff.mpr ⟨bad, rfl⟩]
      rfl
  | noBackend good none =>
      rw [main, listenAddrFromEnv_eq_ok_iff.mpr good,
        backendsFromEnv_eq_error_iff.mpr (.inl ⟨none, rfl⟩)]
      rfl
  | @backend listen before after text good split goodBefore bad =>
      rw [main, listenAddrFromEnv_eq_ok_iff.mpr good,
        backendsFromEnv_eq_error_iff.mpr (.inr ⟨before, text, after, split, goodBefore, bad, rfl⟩)]
      rfl
  | log configures closed =>
      rw [main_of_configures configures]
      exact Server.build_eq_error configures.valid closed

end

/-! ## The addresses in the log -/

/-- A character of a displayed address. -/
def AddrChar (char : Char) : Prop :=
  (toDigit 16 char).isSome ∨ char ∈ ['.', ':', '[', ']', '%']

def AddrText (text : Text) : Prop :=
  ∀ char ∈ text, AddrChar char

theorem addrText_append {front back : Text} :
    AddrText (front ++ back) ↔ AddrText front ∧ AddrText back :=
  List.forall_mem_append

theorem addrText_cons {char : Char} {text : Text} :
    AddrText (char :: text) ↔ AddrChar char ∧ AddrText text :=
  List.forall_mem_cons

theorem addrText_nil : AddrText [] :=
  List.forall_mem_nil _

theorem addrText_hex (number : Nat) : AddrText (Nat.toDigits 16 number) := by
  intro char member
  exact .inl ((Scanner.toDigits_spec (by decide) le_rfl number).1 char member)

theorem addrText_decimal (number : Nat) : AddrText (decimal number) := by
  intro char member
  exact .inl (allDigits_hex (Scanner.toDigits_spec (by decide) (by decide) number).1 char member)

theorem addrText_joinFrom {separator : Char} (plain : AddrChar separator) {texts : List Text}
    (all : ∀ text ∈ texts, AddrText text) (index : Nat) :
    AddrText (joinFrom separator index texts) := by
  induction texts generalizing index with
  | nil => exact addrText_nil
  | cons text texts ih =>
      rw [joinFrom, addrText_append, addrText_append]
      refine ⟨⟨?_, all text List.mem_cons_self⟩,
        ih (fun other member => all other (List.mem_cons_of_mem text member)) (index + 1)⟩
      split
      · exact addrText_cons.mpr ⟨plain, addrText_nil⟩
      · exact addrText_nil

theorem addrText_formatIpv4 (ip : BitVec 32) : AddrText (formatIpv4 ip) := by
  rw [formatIpv4_eq]
  apply addrText_joinFrom (.inr (by simp))
  intro text member
  obtain ⟨octet, _, rfl⟩ := List.mem_map.mp member
  exact addrText_decimal octet

theorem addrText_formatSegments (segments : List Nat) : AddrText (formatSegments segments) := by
  rw [formatSegments_eq]
  apply addrText_joinFrom (.inr (by simp))
  intro text member
  obtain ⟨segment, _, rfl⟩ := List.mem_map.mp member
  exact addrText_hex segment

theorem addrText_formatIpv6 (ip : BitVec 128) : AddrText (formatIpv6 ip) := by
  have colon : AddrChar ':' := .inr (by simp)
  have hex : AddrChar 'f' := .inl rfl
  unfold formatIpv6
  split
  · have front : "::ffff:".toList = [':', ':', 'f', 'f', 'f', 'f', ':'] := rfl
    simp only [front, List.cons_append, List.nil_append, addrText_cons, colon, hex,
      addrText_formatIpv4, and_self]
  · dsimp only
    split
    · have middle : "::".toList = [':', ':'] := rfl
      simp only [middle, addrText_append, addrText_cons, addrText_nil, colon,
        addrText_formatSegments, and_self]
    · exact addrText_formatSegments _

theorem addrText_formatAddr (addr : SocketAddr) : AddrText (formatAddr addr) := by
  have colon : AddrChar ':' := .inr (by simp)
  cases addr with
  | v4 ip port =>
      rw [formatAddr, addrText_append, addrText_cons]
      exact ⟨addrText_formatIpv4 ip, colon, addrText_decimal _⟩
  | v6 ip port flowinfo scopeId =>
      have percent : AddrChar '%' := .inr (by simp)
      have opening : AddrChar '[' := .inr (by simp)
      have closing : AddrChar ']' := .inr (by simp)
      have scope : AddrText (if scopeId = 0 then [] else '%' :: decimal scopeId.toNat) := by
        split
        · exact addrText_nil
        · exact addrText_cons.mpr ⟨percent, addrText_decimal _⟩
      have after : "]:".toList = [']', ':'] := rfl
      unfold formatAddr
      simp only [after, addrText_append, addrText_cons, addrText_nil, addrText_formatIpv6,
        addrText_decimal, scope, colon, opening, closing, and_self]

/-- A displayed address is one part, with nothing around it. -/
theorem AddrChar.plain {char : Char} (addrChar : AddrChar char) :
    char ≠ ',' ∧ isWhitespace char = false := by
  rcases addrChar with digit | other
  · refine ⟨?_, isWhitespace_of_toDigit digit⟩
    rintro rfl
    cases digit
  · simp only [List.mem_cons, List.not_mem_nil, or_false] at other
    rcases other with rfl | rfl | rfl | rfl | rfl <;> decide

theorem formatAddr_ne_nil (addr : SocketAddr) : formatAddr addr ≠ [] := by
  cases addr with
  | v4 ip port => exact List.append_ne_nil_of_right_ne_nil _ (List.cons_ne_nil _ _)
  | v6 ip port flowinfo scopeId => exact List.append_ne_nil_of_right_ne_nil _ Nat.toDigits_ne_nil

theorem backendTexts_formatAddr (addrs : List SocketAddr) :
    backendTexts (addrs.map formatAddr) = addrs.map formatAddr := by
  induction addrs with
  | nil => rfl
  | cons addr addrs ih =>
      have trimmed : trim (formatAddr addr) = formatAddr addr :=
        trimmed_of_visible fun char member => (addrText_formatAddr addr char member).plain.2
      rw [List.map_cons, backendTexts_cons, trimmed, if_neg (formatAddr_ne_nil addr), ih]

/-- The list of backends in the log names these backends. -/
theorem backendTexts_logged {addrs : List SocketAddr} (some : addrs ≠ []) :
    backendTexts (((addrs.map formatAddr).intersperse [',']).flatten.splitOn ',') =
      addrs.map formatAddr := by
  have split : ([','].intercalate (addrs.map formatAddr)).splitOn ',' = addrs.map formatAddr := by
    apply List.splitOn_intercalate
    · intro text member
      obtain ⟨addr, _, rfl⟩ := List.mem_map.mp member
      intro comma
      exact (addrText_formatAddr addr ',' comma).plain.1 rfl
    · intro none
      exact some (List.map_eq_nil_iff.mp none)
  rw [List.intercalate] at split
  rw [split]
  exact backendTexts_formatAddr addrs

theorem value_serverStart_addrs (listen : SocketAddr) (backends : List SocketAddr)
    (workers : Nat) :
    (serverStart listen backends workers).value "listen" = some (formatAddr listen) ∧
      (serverStart listen backends workers).value "backends" =
        some ((backends.map formatAddr).intersperse [',']).flatten := by
  constructor
  · rw [serverStart, LogRecord.value_field_of_ne (by decide),
      LogRecord.value_field_of_ne (by decide)]
    exact LogRecord.value_field_self rfl _
  · rw [serverStart, LogRecord.value_field_of_ne (by decide)]
    apply LogRecord.value_field_self
    rw [LogRecord.value_field_of_ne (by decide)]
    rfl

/-- What the environment has for the addresses is what a record shows. -/
structure Environment.Copies (environment : Environment) (record : LogRecord) : Prop where
  listen : (environment "MZANI_LISTEN").map Subtype.val = record.value "listen"
  backends : (environment "MZANI_BACKENDS").map Subtype.val = record.value "backends"

theorem Environment.varOr_of_some {environment : Environment} {name : String} {text : Text}
    (set : (environment name).map Subtype.val = some text) (default : Vec Char) :
    (environment.varOr name default).val = text := by
  obtain ⟨value, found, same⟩ := Option.map_eq_some_iff.mp set
  rw [Environment.varOr, found]
  exact same

/-- What a balancer logs at its start configures it. -/
theorem Environment.Copies.configures {environment again : Environment} {config : BalancerConfig}
    (configured : environment.Configures config)
    (copies : again.Copies
      (serverStart config.listen config.backends.val config.pool.workers.val)) :
    again.Configures config := by
  obtain ⟨listen, backends⟩ :=
    value_serverStart_addrs config.listen config.backends.val config.pool.workers.val
  have listenText := Environment.varOr_of_some (copies.listen.trans listen) defaultListen
  have backendsText := Environment.varOr_of_some (copies.backends.trans backends) defaultBackends
  refine ⟨?_, ?_, configured.nonempty, configured.others⟩
  · rw [listenText]
    exact fromStr_formatAddr_of_read configured.listen
  · rw [Environment.backendTexts, backendsText, backendTexts_logged configured.nonempty,
      List.map_map]
    apply List.map_congr_left
    intro addr member
    obtain ⟨text, _, read⟩ : ∃ text ∈ environment.backendTexts,
        SocketAddr.fromStr text = some addr := by
      have named : some addr ∈ config.backends.val.map some := List.mem_map_of_mem member
      rw [← configured.backends] at named
      exact List.mem_map.mp named
    exact fromStr_formatAddr_of_read read

/-- An environment with zeros, blanks and empty parts. -/
def spaced : Environment := fun name =>
  if name = "MZANI_LISTEN" then some ⟨"[::1]:080".toList, by decide⟩
  else some ⟨" 10.0.0.1:80 ,,[::2%3]:443".toList, by decide⟩

/-- What a balancer in this environment logs. -/
def unspaced : Environment := fun name =>
  if name = "MZANI_LISTEN" then some ⟨"[::1]:80".toList, by decide⟩
  else some ⟨"10.0.0.1:80,[::2%3]:443".toList, by decide⟩

end Mzani
