import CannedReply.Config.Draft
import CannedReply.Proofs.CommandLine.Layers
import CannedReply.Proofs.CommandLine.Spelling
import CannedReply.Proofs.Toml.Written

/-!
A number for a port, in a document and as a flag: both take it for what it is if it is a port, and
refuse it otherwise.
-/

namespace CannedReply

open Numeral Toml

namespace Config

variable {rest : List Char} {n : Int} {c : Config}

/-- Other characters do not start a number. -/
theorem integerText_head_ne {x : Char} (minus : x ≠ '-') (digit : isDigit 10 x = false)
    (h : Closes rest) : ∀ c ∈ ((integerText n).toList ++ rest).head?, c ≠ x := by
  rw [toList_integerText]
  exact Reader.signed_head_ne (Reader.digits_written n.natAbs h) minus digit

/-- A number as it is shown is read as a value if 64 bits are enough for it. -/
theorem value_integerText (depth : Nat) (n : Int) (h : Closes rest) :
    ∃ span, Reader.value depth ((integerText n).toList ++ rest) =
      if Reader.inRange n = true then some (.scalar (.integer n) span, rest) else none := by
  have ds := Reader.digits_written n.natAbs h
  have zero : (digits 10 n.natAbs).head? = some '0' → digits 10 n.natAbs = ['0'] :=
    eq_zero_of_head?_digits (by decide) (by decide)
  have read := Reader.scalar_signed ds zero (decide (n < 0))
  rw [signedNumber_digits, ← toList_integerText] at read
  refine ⟨_, (Reader.value_of_head depth fun c hc => ?_).trans read⟩
  exact ⟨integerText_head_ne (by decide) (by decide) h c hc,
    integerText_head_ne (by decide) (by decide) h c hc⟩

/-- The line of a number for the port. -/
theorem line_port (n : Int) (rest : List Char) :
    ∃ k span, k.name = portName.text ∧
      Reader.line (entry portName (integerText n).toList ++ '\n' :: rest) =
        if Reader.inRange n = true
        then some (some (.assign ⟨[], k, .scalar (.integer n) span⟩), rest) else none := by
  have closes : Closes ('\n' :: rest) := ⟨'\n', by decide, rfl⟩
  obtain ⟨span, value⟩ := value_integerText depthLimit n closes
  obtain ⟨k, key, named⟩ := Reader.key_entry portName [] (integerText n).toList ('\n' :: rest) nofun
  have ink : ∀ c ∈ ((integerText n).toList ++ '\n' :: rest).head?, isSpace c = false := by
    intro c hc
    have tab := integerText_head_ne (x := '\t') (by decide) (by decide) closes c hc
    have space := integerText_head_ne (x := ' ') (by decide) (by decide) closes c hc
    simp [isSpace, tab, space]
  have assigned : Reader.assignment (Reader.value depthLimit) _ = _ :=
    Reader.assignment_key key ink
  have head := Reader.head_entry portName (integerText n).toList ('\n' :: rest)
  refine ⟨k, span, named, ?_⟩
  split
  · next range =>
    rw [if_pos range] at value
    exact Reader.line_assign head (assigned.trans (by rw [Reader.bind_of value]; rfl))
  · next range =>
    rw [if_neg range] at value
    exact Reader.line_of_none head (assigned.trans (Reader.bind_of_none value))

/-- A document of a number for the port holds just that, if 64 bits are enough for it; otherwise it
is no document. -/
theorem parse?_port (n : Int) :
    ∃ l k s s', l.name = listenerName.text ∧ k.name = portName.text ∧
      Toml.parse? ("[listener]\nport = " ++ integerText n ++ "\n").toList =
        if Reader.inRange n = true
        then some [(l, .table (.header s) [(k, .scalar (.integer n) s')])] else none := by
  have shape : ("[listener]\nport = " ++ integerText n ++ "\n").toList =
      (Line.header listenerName).chars ++
        '\n' :: (entry portName (integerText n).toList ++ ['\n']) := by
    simp [Line.chars, entry, listenerName, portName]
  obtain ⟨statement, header, stands⟩ :=
    Reader.line_header listenerName (entry portName (integerText n).toList ++ ['\n'])
  obtain ⟨k, s', named, line⟩ := line_port n []
  cases statement with
  | assign a => cases stands
  | header repeated path l span =>
    obtain ⟨rfl, rfl, title⟩ := stands
    have mark : Reader.token ['\ufeff'] ((Line.header listenerName).chars ++
        '\n' :: (entry portName (integerText n).toList ++ ['\n'])) = none :=
      Reader.token_of_head_ne (by rintro c ⟨⟩; decide)
    have shorter : (entry portName (integerText n).toList ++ ['\n']).length <
        ((Line.header listenerName).chars ++
          '\n' :: (entry portName (integerText n).toList ++ ['\n'])).length := by
      simp
      omega
    rw [shape]
    by_cases range : Reader.inRange n = true
    · rw [if_pos range] at line
      have runs := Reader.Runs.step header shorter
        (.step line (by simp) (.stop (s := []) rfl))
      have document := Reader.document_of_runs mark runs
      let table : Section := ⟨false, [], l, span, [⟨[], k, .scalar (.integer n) s'⟩]⟩
      refine ⟨l, k, table.extent, s', title, named, ?_⟩
      rw [if_pos range, Toml.parse?, document]
      rfl
    · rw [if_neg range] at line
      have document := Reader.document_of_runs mark (.step header shorter (.stop line))
      refine ⟨l, k, span, s', title, named, ?_⟩
      rw [if_neg range, Toml.parse?, document]
      rfl

/-- A document of a number for the port sets that port, if it is one, and nothing else. -/
theorem follows_port_iff {l k : Key} {s s' : Span} (name : l.name = listenerName.text)
    (name' : k.name = portName.text) :
    c.Follows [(l, .table (.header s) [(k, .scalar (.integer n) s')])] ↔
      ∃ p : UInt16, (p.toNat : Int) = n ∧ c = ⟨⟨defaultHost, p⟩, .once⟩ := by
  have name : l.name = "listener" := name
  have name' : k.name = "port" := name'
  have listener : listenerNode? [(l, .table (.header s) [(k, .scalar (.integer n) s')])] =
      some (.table (.header s) [(k, .scalar (.integer n) s')]) := by
    simp [listenerNode?, Table.get?, name]
  have mode : modeNode? [(l, .table (.header s) [(k, .scalar (.integer n) s')])] = none := by
    simp [modeNode?, Table.get?, name]
  have host : Node.member? "host" 0 (.table (.header s) [(k, .scalar (.integer n) s')]) = none := by
    simp [Node.member?, Table.get?, name']
  have port : Node.member? "port" 1 (.table (.header s) [(k, .scalar (.integer n) s')]) =
      some (.scalar (.integer n) s') := by
    simp [Node.member?, Table.get?, name']
  have sets : ∀ p, SetsPort (.scalar (.integer n) s') p ↔ (p.toNat : Int) = n := by
    intro p
    simp [SetsPort, Node.IsInteger, eq_comm]
  obtain ⟨⟨h, p⟩, m⟩ := c
  constructor
  · rintro ⟨listens, accepts⟩
    rw [listener] at listens
    rw [mode] at accepts
    obtain ⟨-, hosts, ports⟩ := listens
    rw [host] at hosts
    rw [port] at ports
    have hosts : h = defaultHost := hosts
    have accepts : m = .once := accepts
    exact ⟨p, (sets p).1 ports, by rw [hosts, accepts]⟩
  · rintro ⟨p', value, ⟨⟩⟩
    constructor
    · rw [listener]
      refine ⟨trivial, ?_, ?_⟩
      · rw [host]
        rfl
      · rw [port]
        exact (sets _).2 value
    · rw [mode]
      rfl

/-- A document of a number for the port is accepted for that port, if it is one. -/
theorem parse_port_eq_ok_iff (n : Int) :
    Config.parse ("[listener]\nport = " ++ integerText n ++ "\n") = .ok c ↔
      ∃ p : UInt16, (p.toNat : Int) = n ∧ c = ⟨⟨defaultHost, p⟩, .once⟩ := by
  obtain ⟨l, k, s, s', name, name', document⟩ := parse?_port n
  rw [parse_eq_ok_iff, document]
  constructor
  · rintro ⟨d, found, follows, -⟩
    split at found
    · cases found
      exact (follows_port_iff name name').1 follows
    · cases found
  · rintro ⟨p, value, rfl⟩
    have small : p.toNat < 65536 := p.toNat_lt
    refine ⟨_, if_pos ?_, (follows_port_iff name name').2 ⟨p, value, rfl⟩, isHost_default⟩
    rw [Reader.inRange_iff]
    omega

end Config

namespace CommandLine

open Config

variable {ms : List Mention} {args : List String} {p q : Progress} {m : Mention} {n : Int}

/-- A port that has been taken is one. -/
theorem Progress.readPort_of_take {text : String} (h : p.take (.port text) = .ok q) :
    ∃ port, readPort text = .ok port := by
  rw [take_of_fresh (takes_of_take h).fresh] at h
  cases read : readPort text with
  | ok port => exact ⟨port, rfl⟩
  | error fault =>
    simp only [read] at h
    cases h

theorem Settings.mentions_withPort (s : Settings) (free : s.port = none) (port : UInt16) :
    (mentions { s with port := some port }).Perm (.port (decimal port.toNat) :: s.mentions) := by
  obtain ⟨config, host, _, forever⟩ := s
  cases free
  let front : List Mention := (config.map .config).toList ++ (host.map .host).toList
  let back : List Mention := if forever then [.forever] else []
  have without : mentions ⟨config, host, none, forever⟩ = front ++ back := by
    cases config <;> cases host <;> cases forever <;> rfl
  have given : mentions ⟨config, host, some port, forever⟩ =
      front ++ .port (decimal port.toNat) :: back := by
    cases config <;> cases host <;> cases forever <;> rfl
  rw [without, given]
  exact List.perm_middle

/-- A number for the port among other flags is taken for that port, if it is one. -/
theorem parse_port_eq_ok_iff {s : Settings} (free : s.port = none) (config : s.config ≠ some "")
    (order : ms.Perm (.port (integerText n) :: s.mentions)) (spelled : Mention.Spelled ms args)
    (r : Request) :
    parse args = .ok r ↔
      ∃ p : UInt16, (p.toNat : Int) = n ∧ r = .serve { s with port := some p } := by
  have taken : ∀ p : UInt16, (p.toNat : Int) = n →
      parse args = .ok (.serve { s with port := some p }) := by
    rintro p rfl
    have perm : ms.Perm (Settings.mentions { s with port := some p }) :=
      order.trans (s.mentions_withPort free p).symm
    exact parse_of_spelledBy config ⟨ms, perm, spelled⟩
  constructor
  · intro parsed
    obtain ⟨q, done, -⟩ := then_eq_ok_iff.1 ((parse_of_spelled spelled).symm.trans parsed)
    obtain ⟨_, _, one⟩ := exists_of_foldlM done (order.mem_iff.2 List.mem_cons_self)
    obtain ⟨port, read⟩ := Progress.readPort_of_take one
    have value := (readPort_integerText n port).1 read
    exact ⟨port, value, Except.ok.inj (parsed.symm.trans (taken port value))⟩
  · rintro ⟨p, value, rfl⟩
    exact taken p value

/-- A number for the port is taken for what it is if it is a port, by a document and by the command
line, whatever else they say, and shown as what it is behind a host. Otherwise both are refused. -/
theorem port_is_taken_as_it_is_or_refused (n : Int) :
    (∀ c, Config.parse ("[listener]\nport = " ++ integerText n ++ "\n") = .ok c ↔
      ∃ p : UInt16, (p.toNat : Int) = n ∧ c = ⟨⟨defaultHost, p⟩, .once⟩) ∧
    (∀ r, parse ["--port=" ++ integerText n] = .ok r ↔
      ∃ p : UInt16, (p.toNat : Int) = n ∧ r = .serve ⟨none, none, some p, false⟩) ∧
    (∀ text d node c, Toml.parse? text.toList = some d → portNode? d = some node →
      node.IsInteger n → Config.parse text = .ok c → (c.listener.port.toNat : Int) = n) ∧
    (∀ (s : Settings) (ms : List Mention) args, s.port = none → s.config ≠ some "" →
      ms.Perm (.port (integerText n) :: s.mentions) → Mention.Spelled ms args →
      ∀ r, parse args = .ok r ↔
        ∃ p : UInt16, (p.toNat : Int) = n ∧ r = .serve { s with port := some p }) ∧
    ((∃ p : UInt16, (p.toNat : Int) = n) ↔ 0 ≤ n ∧ n ≤ 65535) ∧
    ∀ p : UInt16, (p.toNat : Int) = n →
      (∀ fileAt, Settings.effective ⟨none, none, some p, false⟩ fileAt =
        .ok ⟨⟨defaultHost, p⟩, .once⟩) ∧
      ∀ host, (Endpoint.mk host p).authority = host ++ ":" ++ integerText n := by
  refine ⟨fun c => Config.parse_port_eq_ok_iff n, ?flag, ?document, ?flags, ?range, ?shown⟩
  case flag =>
    have spelled : Mention.Spelled [.port (integerText n)] ["--port=" ++ integerText n] :=
      .cons (.long_of (f := .port) rfl rfl rfl) .nil
    exact parse_port_eq_ok_iff (s := .empty) rfl nofun (.refl _) spelled
  case document =>
    intro text d node c document place integer accepted
    obtain ⟨d', document', follows, -⟩ := parse_eq_ok_iff.1 accepted
    cases document.symm.trans document'
    obtain ⟨span, rfl⟩ := integer
    have sets := follows.port
    rw [place] at sets
    obtain ⟨span', same⟩ := sets
    cases same
    rfl
  case flags =>
    intro s ms args free config order spelled
    exact parse_port_eq_ok_iff free config order spelled
  case range =>
    constructor
    · rintro ⟨p, rfl⟩
      have small := p.toNat_lt
      omega
    · rintro ⟨low, high⟩
      exact ⟨UInt16.ofNat n.toNat, ((ofNat_toNat_eq_iff low (by omega)).1 rfl).symm⟩
  case shown =>
    rintro p rfl
    refine ⟨fun fileAt => ?_, fun host => rfl⟩
    exact effective_eq_ok_iff.2 ⟨.default, rfl, rfl, isHost_default⟩

theorem ports_at_their_bound :
    Config.parse "[listener]\nport = 65535\n" = .ok ⟨⟨defaultHost, 65535⟩, .once⟩ ∧
    parse ["--port=65535"] = .ok (.serve ⟨none, none, some 65535, false⟩) ∧
    (∀ c, Config.parse "[listener]\nport = 65536\n" ≠ .ok c) ∧
    ∀ r, parse ["--port=18446744073709551696"] ≠ .ok r := by
  have shown : integerText 65535 = "65535" ∧ integerText 65536 = "65536" ∧
      integerText 18446744073709551696 = "18446744073709551696" := by decide +kernel
  obtain ⟨document, flag, -⟩ := port_is_taken_as_it_is_or_refused 65535
  obtain ⟨document', -, -, -, range', -⟩ := port_is_taken_as_it_is_or_refused 65536
  obtain ⟨-, flag'', -, -, range'', -⟩ := port_is_taken_as_it_is_or_refused 18446744073709551696
  rw [shown.1] at document flag
  rw [shown.2.1] at document'
  rw [shown.2.2] at flag''
  refine ⟨(document _).2 ⟨65535, rfl, rfl⟩, (flag _).2 ⟨65535, rfl, rfl⟩, ?_, ?_⟩
  · intro c accepted
    obtain ⟨p, value, -⟩ := (document' c).1 accepted
    exact absurd (range'.1 ⟨p, value⟩) (by decide)
  · intro r accepted
    obtain ⟨p, value, -⟩ := (flag'' r).1 accepted
    exact absurd (range''.1 ⟨p, value⟩) (by decide)

end CommandLine

end CannedReply
