import Registrar.Net.Address
import Mathlib.Data.List.Infix
import Mathlib.Tactic.IntervalCases

/-!
# Hosts and ports

A host and a port with a colon between them make an address exactly if the host is an address of
four octets, or one of eight groups in brackets. The readers of addresses are not told where the
host ends: they stop there by themselves, as none of them goes on beyond a mark that it does not
know.
-/

namespace Registrar.Net

open Text

inductive Host where
  | v4 (ip : Ipv4)
  | v6 (ip : Ipv6) (scope : UInt32)
deriving DecidableEq, Repr

namespace Host

def withPort (port : UInt16) : Host → SocketAddress
  | .v4 ip => .v4 ip port
  | .v6 ip scope => .v6 ip scope port

def readV4? (text : List Char) : Option Host := do
  let (ip, rest) ← readIpv4 text
  if rest.isEmpty then some (.v4 ip) else none

def readV6? (text : List Char) : Option Host := do
  let (ip, rest) ← expect '[' text >>= readIpv6
  let (scope, rest) ← readScope rest
  let rest ← expect ']' rest
  if rest.isEmpty then some (.v6 ip scope) else none

def read? (text : List Char) : Option Host :=
  readV4? text <|> readV6? text

end Host

/-! ### Readers that stop -/

section Readers

variable {α β : Type} {stop : Char}

/-- A reader that leaves an end of its text, and goes on beyond the stop under no circumstances. -/
structure StopsAt (stop : Char) (read : List Char → Option (α × List Char)) : Prop where
  suffix : ∀ {text : List Char} {value : α} {rest : List Char},
    read text = some (value, rest) → rest <:+ text
  append : ∀ text more : List Char,
    read (text ++ stop :: more)
      = (read text).map fun found => (found.1, found.2 ++ stop :: more)

theorem StopsAt.pure (value : α) : StopsAt stop fun text => some (value, text) where
  suffix := by
    intro text value rest hread
    obtain ⟨-, rfl⟩ := Prod.mk.inj (Option.some_inj.mp hread)
    exact List.suffix_refl text
  append := fun _ _ => rfl

/-- Readers that stop before a character can be put one after the other. -/
theorem StopsAt.bind {first : List Char → Option (α × List Char)}
    {next : α → List Char → Option (β × List Char)} (hfirst : StopsAt stop first)
    (hnext : ∀ value, StopsAt stop (next value)) :
    StopsAt stop fun text => (first text).bind fun found => next found.1 found.2 where
  suffix := by
    intro text value rest hread
    obtain ⟨⟨middle, between⟩, hmiddle, hrest⟩ := Option.bind_eq_some_iff.mp hread
    exact ((hnext middle).suffix hrest).trans (hfirst.suffix hmiddle)
  append := by
    intro text more
    rw [hfirst.append]
    cases first text with
    | none => rfl
    | some found => exact (hnext found.1).append found.2 more

theorem expect_suffix {mark : Char} {text rest : List Char}
    (hexpect : expect mark text = some rest) : rest <:+ text := by
  cases text with
  | nil => contradiction
  | cons c text =>
      rw [expect] at hexpect
      split at hexpect
      · obtain rfl := Option.some_inj.mp hexpect
        exact List.suffix_cons c text
      · contradiction

theorem expect_append {mark : Char} (hmark : stop ≠ mark) (text more : List Char) :
    expect mark (text ++ stop :: more) = (expect mark text).map (· ++ stop :: more) := by
  cases text with
  | nil => exact if_neg hmark
  | cons c text =>
      rw [List.cons_append, expect, expect]
      split <;> rfl

/-- A reader that waits for another mark stops where the one behind the mark does. -/
theorem StopsAt.after {mark : Char} (hmark : stop ≠ mark)
    {read : List Char → Option (α × List Char)} (hread : StopsAt stop read) :
    StopsAt stop fun text => expect mark text >>= read where
  suffix := by
    intro text value rest hbind
    obtain ⟨between, hexpect, hrest⟩ := Option.bind_eq_some_iff.mp hbind
    exact (hread.suffix hrest).trans (expect_suffix hexpect)
  append := by
    intro text more
    rw [expect_append hmark]
    cases expect mark text with
    | none => rfl
    | some between => exact hread.append between more

theorem digitRun_suffix (digit? : Char → Option Nat) (text : List Char) :
    (digitRun digit? text).2 <:+ text := by
  induction text with
  | nil => exact List.suffix_refl []
  | cons c text ih =>
      unfold digitRun
      split
      · exact ih.trans (List.suffix_cons c text)
      · exact List.suffix_refl _

theorem digitRun_append {digit? : Char → Option Nat} (hstop : digit? stop = none)
    (text more : List Char) :
    digitRun digit? (text ++ stop :: more)
      = ((digitRun digit? text).1, (digitRun digit? text).2 ++ stop :: more) := by
  induction text with
  | nil =>
      simp only [List.nil_append, digitRun, hstop]
  | cons c text ih =>
      rw [List.cons_append, digitRun, digitRun, ih]
      cases digit? c <;> rfl

/-- Reading digits and making something of them. -/
theorem StopsAt.digits {digit? : Char → Option Nat} (hstop : digit? stop = none)
    (make : List Nat → Option α) :
    StopsAt stop fun text =>
      (make (digitRun digit? text).1).map fun value => (value, (digitRun digit? text).2) where
  suffix := by
    intro text value rest hread
    obtain ⟨made, -, hfound⟩ := Option.map_eq_some_iff.mp hread
    obtain ⟨-, rfl⟩ := Prod.mk.inj hfound
    exact digitRun_suffix digit? text
  append := by
    intro text more
    rw [digitRun_append hstop, Option.map_map]
    rfl

end Readers

/-! ### Addresses -/

section Addresses

variable {stop : Char}

theorem stopsAt_readDecimal (hstop : decimalDigit? stop = none) (bound : Nat) :
    StopsAt stop (readDecimal bound) := by
  let make (digits : List Nat) : Option Nat :=
    if digits.isEmpty || bound ≤ inBase 10 digits then none else some (inBase 10 digits)
  have hread : readDecimal bound = fun text => (make (digitRun decimalDigit? text).1).map
      fun value => (value, (digitRun decimalDigit? text).2) := by
    funext text
    unfold readDecimal
    dsimp only [make]
    split <;> rfl
  rw [hread]
  exact StopsAt.digits hstop make

theorem stopsAt_readOctet (hstop : decimalDigit? stop = none) : StopsAt stop readOctet := by
  let make (digits : List Nat) : Option UInt8 :=
    if digits.isEmpty || 3 < digits.length || (digits.head? == some 0 && 1 < digits.length) ||
      256 ≤ inBase 10 digits then none
    else some (.ofNat (inBase 10 digits))
  have hread : readOctet = fun text => (make (digitRun decimalDigit? text).1).map
      fun value => (value, (digitRun decimalDigit? text).2) := by
    funext text
    unfold readOctet
    dsimp only [make]
    split <;> rfl
  rw [hread]
  exact StopsAt.digits hstop make

theorem stopsAt_readGroup (hstop : hexDigit? stop = none) : StopsAt stop readGroup := by
  let make (digits : List Nat) : Option UInt16 :=
    if digits.isEmpty || 4 < digits.length then none else some (.ofNat (inBase 16 digits))
  have hread : readGroup = fun text => (make (digitRun hexDigit? text).1).map
      fun value => (value, (digitRun hexDigit? text).2) := by
    funext text
    unfold readGroup
    dsimp only [make]
    split <;> rfl
  rw [hread]
  exact StopsAt.digits hstop make

theorem stopsAt_readIpv4 (hstop : decimalDigit? stop = none) (hdot : stop ≠ '.') :
    StopsAt stop readIpv4 := by
  have hoctet := stopsAt_readOctet hstop
  have hnext := hoctet.after hdot
  exact hoctet.bind fun a => hnext.bind fun b => hnext.bind fun c => hnext.bind fun d =>
    StopsAt.pure (⟨a, b, c, d⟩ : Ipv4)

/-- A bracket ends all groups, as it is neither a mark nor a digit of theirs. -/
theorem readGroups_append (room : Nat) (first : Bool) (text more : List Char) :
    readGroups room first (text ++ ']' :: more)
      = { readGroups room first text with
          rest := (readGroups room first text).rest ++ ']' :: more } := by
  induction room generalizing first text with
  | zero => rfl
  | succ room ih =>
      have hnext : (if first then some (text ++ ']' :: more) else expect ':' (text ++ ']' :: more))
          = (if first then some text else expect ':' text).map (· ++ ']' :: more) := by
        cases first with
        | true => rfl
        | false => exact expect_append (by decide) text more
      rw [readGroups, readGroups, hnext]
      cases (if first then some text else expect ':' text) with
      | none => rfl
      | some next =>
          have hoctets : (if room = 0 then none else readIpv4 (next ++ ']' :: more))
              = (if room = 0 then none else readIpv4 next).map
                fun found => (found.1, found.2 ++ ']' :: more) := by
            split
            · rfl
            · exact (stopsAt_readIpv4 (by decide) (by decide)).append next more
          dsimp only [Option.map_some]
          rw [hoctets]
          cases (if room = 0 then none else readIpv4 next) with
          | some found => rfl
          | none =>
              dsimp only [Option.map_none]
              rw [(stopsAt_readGroup (by decide)).append]
              cases readGroup next with
              | none => rfl
              | some found =>
                  dsimp only [Option.map_some]
                  rw [ih]

theorem readGroups_suffix (room : Nat) (first : Bool) (text : List Char) :
    (readGroups room first text).rest <:+ text := by
  induction room generalizing first text with
  | zero => exact List.suffix_refl text
  | succ room ih =>
      rw [readGroups]
      split
      · exact List.suffix_refl text
      · next next hnext =>
          have hsuffix : next <:+ text := by
            cases first with
            | true =>
                obtain rfl := Option.some_inj.mp hnext
                exact List.suffix_refl text
            | false => exact expect_suffix hnext
          split
          · next ip rest hoctets =>
              split at hoctets
              · contradiction
              · have hstops : StopsAt ']' readIpv4 := stopsAt_readIpv4 (by decide) (by decide)
                exact (hstops.suffix hoctets).trans hsuffix
          · split
            · exact List.suffix_refl text
            · next group rest hgroup =>
                have hstops : StopsAt ']' readGroup := stopsAt_readGroup (by decide)
                exact ((ih false rest).trans (hstops.suffix hgroup)).trans hsuffix

theorem stopsAt_readIpv6 : StopsAt ']' readIpv6 where
  suffix := by
    intro text ip rest hread
    unfold readIpv6 at hread
    dsimp only at hread
    have hhead := readGroups_suffix 8 true text
    split at hread
    · obtain ⟨-, rfl⟩ := Prod.mk.inj (Option.some_inj.mp hread)
      exact hhead
    · split at hread
      · contradiction
      · obtain ⟨between, hcolons, hread⟩ := Option.bind_eq_some_iff.mp hread
        obtain ⟨middle, hfirst, hsecond⟩ := Option.bind_eq_some_iff.mp hcolons
        have hbetween := ((expect_suffix hsecond).trans (expect_suffix hfirst)).trans hhead
        split at hread
        · obtain ⟨-, rfl⟩ := Prod.mk.inj (Option.some_inj.mp hread)
          exact (readGroups_suffix _ true between).trans hbetween
        · contradiction
  append := by
    intro text more
    unfold readIpv6
    dsimp only
    rw [readGroups_append]
    dsimp only
    by_cases hwhole : (readGroups 8 true text).groups.length = 8
    · rw [dif_pos hwhole, dif_pos hwhole]
      rfl
    · rw [dif_neg hwhole, dif_neg hwhole]
      split
      · rfl
      · rw [expect_append (by decide)]
        cases expect ':' (readGroups 8 true text).rest with
        | none => rfl
        | some middle =>
            change ((expect ':' (middle ++ ']' :: more)).bind _)
              = Option.map _ ((expect ':' middle).bind _)
            rw [expect_append (by decide)]
            cases expect ':' middle with
            | none => rfl
            | some between =>
                dsimp only [Option.map_some, Option.bind_some]
                rw [readGroups_append]
                dsimp only
                split <;> rfl

theorem stopsAt_readScope : StopsAt ']' readScope where
  suffix := by
    intro text scope rest hread
    unfold readScope at hread
    split at hread
    · obtain ⟨-, rfl⟩ := Prod.mk.inj (Option.some_inj.mp hread)
      exact List.suffix_refl text
    · next number hnumber =>
        obtain ⟨found, hfound, hscope⟩ := Option.map_eq_some_iff.mp hread
        obtain ⟨-, rfl⟩ := Prod.mk.inj hscope
        have hstops : StopsAt ']' (readDecimal (Nat.pow 2 32)) := stopsAt_readDecimal (by decide) _
        exact (hstops.suffix hfound).trans (expect_suffix hnumber)
  append := by
    intro text more
    unfold readScope
    rw [expect_append (by decide)]
    cases expect '%' text with
    | none => rfl
    | some number =>
        dsimp only [Option.map_some]
        rw [(stopsAt_readDecimal (by decide) _).append, Option.map_map, Option.map_map]
        rfl

end Addresses

/-! ### Ports -/

section Ports

theorem decimalDigit?_digitChar {digit : Nat} (hdigit : digit < 10) :
    decimalDigit? digit.digitChar = some digit := by
  interval_cases digit <;> rfl

theorem digitRun_toDigits (number : Nat) :
    ∃ digits, digitRun decimalDigit? (Nat.toDigits 10 number) = (digits, [])
      ∧ digits ≠ [] ∧ inBase 10 digits = number := by
  have hjoin : ∀ (chars : List Char) (digits : List Nat) (digit : Nat), digit < 10 →
      digitRun decimalDigit? chars = (digits, []) →
      digitRun decimalDigit? (chars ++ [digit.digitChar]) = (digits ++ [digit], []) := by
    intro chars digits digit hdigit hchars
    induction chars generalizing digits with
    | nil =>
        obtain ⟨rfl, -⟩ := Prod.mk.inj hchars
        simp only [List.nil_append, digitRun, decimalDigit?_digitChar hdigit]
    | cons c chars ih =>
        rw [digitRun] at hchars
        rw [List.cons_append, digitRun]
        cases hc : decimalDigit? c with
        | none =>
            rw [hc] at hchars
            exact absurd (Prod.mk.inj hchars).2 (List.cons_ne_nil c chars)
        | some value =>
            rw [hc] at hchars
            obtain ⟨rfl, hrest⟩ := Prod.mk.inj hchars
            have hrun := ih _ (Prod.ext rfl hrest)
            dsimp only
            rw [hrun]
            rfl
  -- The digits are written by splitting the last one off, but read from the first one on.
  induction number using Nat.strongRecOn with
  | ind number ih =>
      rw [Nat.toDigits_eq_if (by decide)]
      split
      · next hdigit =>
          refine ⟨[number], ?_, List.cons_ne_nil _ _, Nat.zero_add number⟩
          simp only [digitRun, decimalDigit?_digitChar hdigit]
      · next hlarge =>
          obtain ⟨digits, hrun, -, hvalue⟩ := ih (number / 10) (by omega)
          have hlast : number % 10 < 10 := Nat.mod_lt number (by decide)
          refine ⟨digits ++ [number % 10], hjoin _ _ _ hlast hrun, by simp, ?_⟩
          unfold inBase at hvalue ⊢
          rw [List.foldl_append, hvalue]
          exact Nat.div_add_mod' number 10

theorem toList_toString_port (port : UInt16) :
    (toString port).toList = Nat.toDigits 10 port.toNat := by
  change (Nat.repr port.toNat).toList = _
  rw [Nat.repr, String.toList_ofList]

/-- The digits of a port are read as the port, so that nothing can go wrong behind the host. -/
theorem readDecimal_port (port : UInt16) :
    readDecimal (Nat.pow 2 16) (Nat.toDigits 10 port.toNat) = some (port.toNat, []) := by
  obtain ⟨digits, hrun, hne, hvalue⟩ := digitRun_toDigits port.toNat
  have hbound : ¬ Nat.pow 2 16 ≤ port.toNat := Nat.not_le.mpr port.toNat_lt
  unfold readDecimal
  simp [hrun, hne, hvalue, hbound]

/-- Whatever stands before the colon of the port is one text too many. -/
theorem readPort?_append (text : List Char) (port : UInt16) :
    readPort? (text ++ ':' :: Nat.toDigits 10 port.toNat)
      = if text.isEmpty then some port else none := by
  unfold readPort?
  cases text with
  | nil =>
      change ((readDecimal (Nat.pow 2 16) (Nat.toDigits 10 port.toNat)).bind _) = some port
      rw [readDecimal_port]
      exact congrArg some UInt16.ofNat_toNat
  | cons c text =>
      rw [List.cons_append, expect]
      split
      · change (readDecimal (Nat.pow 2 16) (text ++ ':' :: Nat.toDigits 10 port.toNat)).bind _
          = none
        rw [(stopsAt_readDecimal (by decide) _).append]
        cases readDecimal (Nat.pow 2 16) text with
        | none => rfl
        | some found =>
            obtain ⟨number, rest⟩ := found
            cases rest <;> rfl
      · rfl

end Ports

/-! ### Hosts -/

section Hosts

variable (host : List Char) (port : UInt16)

theorem parseV4?_host :
    SocketAddress.parseV4? (host ++ ':' :: Nat.toDigits 10 port.toNat)
      = (Host.readV4? host).map (·.withPort port) := by
  have hstops : StopsAt ':' readIpv4 := stopsAt_readIpv4 (by decide) (by decide)
  unfold SocketAddress.parseV4? Host.readV4?
  rw [hstops.append]
  cases readIpv4 host with
  | none => rfl
  | some found =>
      obtain ⟨ip, rest⟩ := found
      change ((readPort? (rest ++ ':' :: Nat.toDigits 10 port.toNat)).bind _)
        = Option.map _ (if rest.isEmpty then some (Host.v4 ip) else none)
      rw [readPort?_append]
      split <;> rfl

def readUnclosed (text : List Char) : Option ((Ipv6 × UInt32) × List Char) := do
  let (ip, rest) ← expect '[' text >>= readIpv6
  let (scope, rest) ← readScope rest
  some ((ip, scope), rest)

def readBracketed (text : List Char) : Option ((Ipv6 × UInt32) × List Char) :=
  (readUnclosed text).bind fun found => (expect ']' found.2).map fun rest => (found.1, rest)

theorem stopsAt_readUnclosed : StopsAt ']' readUnclosed :=
  (stopsAt_readIpv6.after (by decide)).bind fun ip => stopsAt_readScope.bind fun scope =>
    StopsAt.pure (ip, scope)

theorem readBracketed_bind {α : Type} (text : List Char)
    (next : Ipv6 → UInt32 → List Char → Option α) :
    (do
      let (ip, rest) ← expect '[' text >>= readIpv6
      let (scope, rest) ← readScope rest
      let rest ← expect ']' rest
      next ip scope rest)
      = (readBracketed text).bind fun found => next found.1.1 found.1.2 found.2 := by
  unfold readBracketed readUnclosed
  cases expect '[' text >>= readIpv6 with
  | none => rfl
  | some found =>
      change ((readScope found.2).bind _) = (((readScope found.2).bind _).bind _).bind _
      cases readScope found.2 with
      | none => rfl
      | some behind =>
          change ((expect ']' behind.2).bind _) = ((expect ']' behind.2).map _).bind _
          cases expect ']' behind.2 <;> rfl

/-- An address in brackets is read up to its bracket, and only then comes the port. -/
theorem parseV6?_eq (text : List Char) :
    SocketAddress.parseV6? text = (readBracketed text).bind fun found =>
      (readPort? found.2).bind fun port => some (.v6 found.1.1 found.1.2 port) :=
  readBracketed_bind text fun ip scope rest =>
    (readPort? rest).bind fun port => some (SocketAddress.v6 ip scope port)

theorem readV6?_eq (text : List Char) :
    Host.readV6? text = (readBracketed text).bind fun found =>
      if found.2.isEmpty then some (.v6 found.1.1 found.1.2) else none :=
  readBracketed_bind text fun ip scope rest =>
    if rest.isEmpty then some (Host.v6 ip scope) else none

theorem expect_of_not_mem {mark : Char} {text : List Char} (hmark : mark ∉ text) :
    expect mark text = none := by
  cases text with
  | nil => rfl
  | cons c text => exact if_neg (List.ne_of_not_mem_cons hmark).symm

theorem readBracketed_of_not_mem {text : List Char} (hbracket : ']' ∉ text) :
    readBracketed text = none := by
  unfold readBracketed
  rw [Option.bind_eq_none_iff]
  intro found hfound
  have hrest : ']' ∉ found.2 := fun hmem =>
    hbracket ((stopsAt_readUnclosed.suffix hfound).subset hmem)
  rw [expect_of_not_mem hrest]
  rfl

/-- Without a closing bracket there is nothing to read, and with one the reader stops at it, however the text goes on. -/
theorem readBracketed_append {more : List Char} (hmore : ']' ∉ more) :
    readBracketed (host ++ more)
      = (readBracketed host).map fun found => (found.1, found.2 ++ more) := by
  by_cases hbracket : ']' ∈ host
  · -- Up to a closing bracket the reader has not seen how the text goes on.
    obtain ⟨front, back, rfl⟩ := List.append_of_mem hbracket
    unfold readBracketed
    rw [List.append_assoc, List.cons_append, stopsAt_readUnclosed.append,
      stopsAt_readUnclosed.append]
    cases readUnclosed front with
    | none => rfl
    | some found =>
        obtain ⟨value, rest⟩ := found
        cases rest with
        | nil => rfl
        | cons c rest =>
            change ((expect ']' (c :: (rest ++ ']' :: (back ++ more)))).map _)
              = ((expect ']' (c :: (rest ++ ']' :: back))).map _).map _
            rw [expect, expect]
            split
            · simp
            · rfl
  · have hwhole : ']' ∉ host ++ more := by simp [hbracket, hmore]
    rw [readBracketed_of_not_mem hbracket, readBracketed_of_not_mem hwhole]
    rfl

theorem parseV6?_host :
    SocketAddress.parseV6? (host ++ ':' :: Nat.toDigits 10 port.toNat)
      = (Host.readV6? host).map (·.withPort port) := by
  have hport : ']' ∉ ':' :: Nat.toDigits 10 port.toNat := by
    intro hmem
    rcases List.mem_cons.mp hmem with hcolon | hdigit
    · exact absurd hcolon (by decide)
    · exact absurd (Nat.isDigit_of_mem_toDigits (by decide) (by decide) hdigit) (by decide)
  rw [parseV6?_eq, readV6?_eq, readBracketed_append host hport]
  cases readBracketed host with
  | none => rfl
  | some found =>
      obtain ⟨value, rest⟩ := found
      change ((readPort? (rest ++ ':' :: Nat.toDigits 10 port.toNat)).bind _)
        = Option.map _ (if rest.isEmpty then some (Host.v6 value.1 value.2) else none)
      rw [readPort?_append]
      split <;> rfl

/-- **Hosts.** A host and a port make an address exactly if the host is written as one. -/
theorem parse?_host (host : String) (port : UInt16) :
    SocketAddress.parse? s!"{host}:{port}"
      = (Host.read? host.toList).map (·.withPort port) := by
  have htext : (s!"{host}:{port}").toList = host.toList ++ ':' :: Nat.toDigits 10 port.toNat := by
    rw [← toList_toString_port, String.toList_append, String.toList_append, List.append_assoc]
    rfl
  unfold SocketAddress.parse? Host.read?
  rw [htext, parseV4?_host, parseV6?_host]
  cases Host.readV4? host.toList <;> rfl

example : ["127.0.0.1", "[::1]", "[fe80::1%4]", "localhost", "::1", ""].map
    (fun host => (Host.read? host.toList).isSome) = [true, true, true, false, false, false] := by
  decide +kernel

end Hosts

end Registrar.Net
