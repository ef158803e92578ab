import Windmi.Utils.Config

/-!
# The command line

The loop of `main` over its arguments and the two checks after it.  What the
arguments mean is told apart from the loop: they spell a list of items, each
variable has the value of the last item that sets it, and the items must go
together.
-/

namespace Windmi.Utils

/-! ## Options -/

/-- Options without a value. -/
inductive Flag where
  | selftest
  | demo
  | force
  | rs485
  deriving DecidableEq, Repr

/-- Options that take the next argument. -/
inductive Setting where
  | ip
  | port
  | web
  | staticDir
  | logLevel
  | logFile
  | serial
  | baud
  | parity
  | stopBits
  | config
  deriving DecidableEq, Repr

inductive OptionName where
  | help
  | flag (flag : Flag)
  | setting (setting : Setting)
  deriving DecidableEq, Repr

def OptionName.names : OptionName → List String
  | .help => ["--help", "-h"]
  | .setting .ip => ["--ip", "-i"]
  | .setting .port => ["--port", "-p"]
  | .setting .web => ["--web", "-w"]
  | .setting .staticDir => ["--static-dir", "-t", "--web-dir"]
  | .setting .logLevel => ["--log-level", "-l"]
  | .setting .logFile => ["--log-file", "-o"]
  | .flag .selftest => ["--selftest", "-s"]
  | .flag .demo => ["--demo", "-d"]
  | .flag .force => ["--force", "-f"]
  | .setting .serial => ["--serial"]
  | .setting .baud => ["--baud"]
  | .setting .parity => ["--parity"]
  | .setting .stopBits => ["--stop-bits"]
  | .flag .rs485 => ["--rs485"]
  | .setting .config => ["--config"]

/-- The options in the order in which `main` compares an argument with them. -/
def optionNames : List OptionName :=
  [.help, .setting .ip, .setting .port, .setting .web, .setting .staticDir,
    .setting .logLevel, .setting .logFile, .flag .selftest, .flag .demo,
    .flag .force, .setting .serial, .setting .baud, .setting .parity,
    .setting .stopBits, .flag .rs485, .setting .config]

def optionNamed (arg : String) : Option OptionName :=
  optionNames.find? fun name => arg ∈ name.names

theorem optionNamed_iff (arg : String) (name : OptionName) :
    optionNamed arg = some name ↔ arg ∈ name.names := by
  constructor
  · intro found
    unfold optionNamed at found
    simpa using List.find?_some found
  · intro member
    have all : ∀ name ∈ optionNames, ∀ arg ∈ name.names,
        optionNamed arg = some name := by
      decide +kernel
    have listed : name ∈ optionNames := by
      rcases name with _ | flag | setting
      · decide
      · cases flag <;> decide
      · cases setting <;> decide
    exact all name listed arg member

/-! ## Values -/

/--
`atoi`: the number that the text begins with, or zero.  `strtol` saturates at
64 bits, and the conversion to `int` keeps the lowest 32.
-/
def atoi (text : String) : Int :=
  let chars := text.toList.dropWhile isSpace
  let sign : Int := if chars.head? = some '-' then -1 else 1
  let unsigned :=
    if chars.head? = some '-' ∨ chars.head? = some '+' then chars.tail
    else chars
  let value := sign * digitsValue (unsigned.takeWhile Char.isDigit)
  (BitVec.ofInt 32
    (max (-9223372036854775808) (min value 9223372036854775807))).toInt

inductive LogLevel where
  | trace
  | debug
  | info
  | warn
  | error
  | fatal
  deriving DecidableEq, Repr

def parseLogLevel (level : String) : Option LogLevel :=
  if level = "TRACE" ∨ level = "Trace" then some .trace
  else if level = "DEBUG" ∨ level = "Debug" then some .debug
  else if level = "INFO" ∨ level = "Info" then some .info
  else if level = "WARN" ∨ level = "Warn" then some .warn
  else if level = "ERROR" ∨ level = "Error" then some .error
  else if level = "FATAL" ∨ level = "Fatal" then some .fatal
  else none

/-- One of the letters N, E and O, in capitals. -/
def parseParity (text : String) : Option Char :=
  match text.toList with
  | [letter] =>
      if letter ∈ ['N', 'E', 'O', 'n', 'e', 'o'] then some letter.toUpper
      else none
  | _ => none

/-! ## The variables of `main` -/

structure Options where
  modbusIp : String := "192.168.123.10"
  modbusPort : Int := 8899
  serialDevice : String := ""
  baudRate : Int := 9600
  parity : Char := 'N'
  stopBits : Int := 1
  rs485Enabled : Bool := false
  serialConfigSpecified : Bool := false
  webPort : Int := 8080
  staticDir : String := "static"
  logFilePath : String := ""
  logLevel : LogLevel := .info
  runSelftest : Bool := false
  demoMode : Bool := false
  forceLock : Bool := false
  configPath : String := ""
  ipSpecified : Bool := false
  portSpecified : Bool := false
  serialSpecified : Bool := false
  deriving DecidableEq, Repr

/-- Why `main` returns 1 before it starts anything. -/
inductive Refusal where
  | unknownLogLevel
  | invalidParity (text : String)
  | invalidStopBits (stopBits : Int)
  | unknownOption (arg : String)
  | serialWithAddress
  | serialWithDemo
  | serialSettingsAlone
  deriving DecidableEq, Repr

def Refusal.message : Refusal → String
  | .unknownLogLevel =>
      "Unknown log level (use TRACE,DEBUG,INFO,WARN,ERROR,FATAL)"
  | .invalidParity text => s!"Invalid parity: {text} (must be N, E, or O)"
  | .invalidStopBits stopBits =>
      s!"Invalid stop bits: {stopBits} (must be 1 or 2)"
  | .unknownOption arg => s!"Unknown option: {arg}"
  | .serialWithAddress =>
      "--serial is mutually exclusive with --ip and --port"
  | .serialWithDemo => "--serial is mutually exclusive with --demo"
  | .serialSettingsAlone =>
      "--baud, --parity, --stop-bits, and --rs485 require --serial"

def Flag.apply (options : Options) : Flag → Options
  | .selftest => { options with runSelftest := true }
  | .demo => { options with demoMode := true }
  | .force => { options with forceLock := true }
  | .rs485 =>
      { options with rs485Enabled := true, serialConfigSpecified := true }

def Setting.apply (text : String) (options : Options) :
    Setting → Except Refusal Options
  | .ip => .ok { options with modbusIp := text, ipSpecified := true }
  | .port =>
      .ok { options with modbusPort := atoi text, portSpecified := true }
  | .web => .ok { options with webPort := atoi text }
  | .staticDir => .ok { options with staticDir := text }
  | .logLevel =>
      match parseLogLevel text with
      | some level => .ok { options with logLevel := level }
      | none => .error .unknownLogLevel
  | .logFile => .ok { options with logFilePath := text }
  | .serial =>
      .ok
        { options with
          serialDevice := text
          serialSpecified := true
          serialConfigSpecified := true }
  | .baud =>
      .ok { options with baudRate := atoi text, serialConfigSpecified := true }
  | .parity =>
      match parseParity text with
      | some letter =>
          .ok { options with parity := letter, serialConfigSpecified := true }
      | none => .error (.invalidParity text)
  | .stopBits =>
      if atoi text ≠ 1 ∧ atoi text ≠ 2 then
        .error (.invalidStopBits (atoi text))
      else
        .ok
          { options with
            stopBits := atoi text
            serialConfigSpecified := true }
  | .config => .ok { options with configPath := text }

/-! ## Parsing -/

/-- What `main` does with its arguments; for help and refusals it returns. -/
inductive Outcome where
  | help
  | refused (refusal : Refusal)
  | run (options : Options)
  deriving DecidableEq, Repr

/-- The loop over the arguments.  An option without its value is unknown. -/
def parseLoop (options : Options) : List String → Outcome
  | [] => .run options
  | arg :: args =>
      match optionNamed arg with
      | some .help => .help
      | some (.flag flag) => parseLoop (flag.apply options) args
      | some (.setting setting) =>
          match args with
          | [] => .refused (.unknownOption arg)
          | text :: args =>
              match setting.apply text options with
              | .ok options => parseLoop options args
              | .error refusal => .refused refusal
      | none => .refused (.unknownOption arg)

/-- The checks after the loop. -/
def checkOptions (options : Options) : Outcome :=
  if options.serialSpecified ∧
      (options.ipSpecified ∨ options.portSpecified) then
    .refused .serialWithAddress
  else if options.serialSpecified ∧ options.demoMode then
    .refused .serialWithDemo
  else if options.serialConfigSpecified ∧ ¬ options.serialSpecified then
    .refused .serialSettingsAlone
  else
    .run options

def parseArguments (args : List String) : Outcome :=
  match parseLoop {} args with
  | .run options => checkOptions options
  | outcome => outcome

/-! ## What arguments mean -/

inductive Item where
  | flag (flag : Flag)
  | setting (setting : Setting) (text : String)
  deriving DecidableEq, Repr

/-- The arguments spell the items, under any of their names. -/
inductive Spells : List Item → List String → Prop where
  | nil : Spells [] []
  | flag {flag name items args} :
      name ∈ (OptionName.flag flag).names → Spells items args →
        Spells (.flag flag :: items) (name :: args)
  | setting {setting name text items args} :
      name ∈ (OptionName.setting setting).names → Spells items args →
        Spells (.setting setting text :: items) (name :: text :: args)

/-- Only three options restrict their values. -/
def Item.Valid : Item → Prop
  | .setting .logLevel text => (parseLogLevel text).isSome
  | .setting .parity text => (parseParity text).isSome
  | .setting .stopBits text => atoi text = 1 ∨ atoi text = 2
  | _ => True

def Item.text (setting : Setting) : Item → Option String
  | .setting other text => if other = setting then some text else none
  | .flag _ => none

/-- The value of the last item for a setting. -/
def lastText (setting : Setting) (items : List Item) : Option String :=
  (items.filterMap (Item.text setting)).getLast?

def given (setting : Setting) (items : List Item) : Bool :=
  (lastText setting items).isSome

def flagged (flag : Flag) (items : List Item) : Bool :=
  .flag flag ∈ items

/-- Whether something is set that only a serial device has. -/
def serialSettings (items : List Item) : Bool :=
  given .baud items || given .parity items || given .stopBits items ||
    flagged .rs485 items

/-- Every variable by the last item that sets it, or else its default. -/
def optionsOf (items : List Item) : Options where
  modbusIp := (lastText .ip items).getD "192.168.123.10"
  modbusPort := ((lastText .port items).map atoi).getD 8899
  serialDevice := (lastText .serial items).getD ""
  baudRate := ((lastText .baud items).map atoi).getD 9600
  parity := ((lastText .parity items).bind parseParity).getD 'N'
  stopBits := ((lastText .stopBits items).map atoi).getD 1
  rs485Enabled := flagged .rs485 items
  serialConfigSpecified := given .serial items || serialSettings items
  webPort := ((lastText .web items).map atoi).getD 8080
  staticDir := (lastText .staticDir items).getD "static"
  logFilePath := (lastText .logFile items).getD ""
  logLevel := ((lastText .logLevel items).bind parseLogLevel).getD .info
  runSelftest := flagged .selftest items
  demoMode := flagged .demo items
  forceLock := flagged .force items
  configPath := (lastText .config items).getD ""
  ipSpecified := given .ip items
  portSpecified := given .port items
  serialSpecified := given .serial items

/-- A serial device excludes gateway and demo, and its settings need it. -/
structure Compatible (items : List Item) : Prop where
  address : given .serial items = true →
    given .ip items = false ∧ given .port items = false
  demo : given .serial items = true → flagged .demo items = false
  settings : serialSettings items = true → given .serial items = true

/-! ### One more item -/

section

variable (items : List Item)

@[simp]
theorem lastText_setting (setting other : Setting) (text : String) :
    lastText setting (items ++ [.setting other text]) =
      if other = setting then some text else lastText setting items := by
  unfold lastText
  rw [List.filterMap_append]
  simp only [List.filterMap_cons, List.filterMap_nil, Item.text]
  split_ifs with same
  · exact List.getLast?_concat
  · rw [List.append_nil]

@[simp]
theorem lastText_flag (setting : Setting) (flag : Flag) :
    lastText setting (items ++ [.flag flag]) = lastText setting items := by
  unfold lastText
  rw [List.filterMap_append]
  exact congrArg List.getLast? (List.append_nil _)

@[simp]
theorem flagged_setting (flag : Flag) (setting : Setting) (text : String) :
    flagged flag (items ++ [.setting setting text]) =
      flagged flag items := by
  simp [flagged]

@[simp]
theorem flagged_flag (flag other : Flag) :
    flagged flag (items ++ [.flag other]) =
      (flagged flag items || decide (flag = other)) := by
  simp [flagged]

theorem optionsOf_flag (flag : Flag) :
    optionsOf (items ++ [.flag flag]) = flag.apply (optionsOf items) := by
  cases flag with
  | selftest => simp [optionsOf, Flag.apply, given, serialSettings]
  | demo => simp [optionsOf, Flag.apply, given, serialSettings]
  | force => simp [optionsOf, Flag.apply, given, serialSettings]
  | rs485 => simp [optionsOf, Flag.apply, given, serialSettings]

theorem optionsOf_setting {setting : Setting} {text : String}
    (valid : (Item.setting setting text).Valid) :
    setting.apply text (optionsOf items) =
      .ok (optionsOf (items ++ [.setting setting text])) := by
  cases setting with
  | ip => simp [optionsOf, Setting.apply, given, serialSettings]
  | port => simp [optionsOf, Setting.apply, given, serialSettings]
  | web => simp [optionsOf, Setting.apply, given, serialSettings]
  | staticDir => simp [optionsOf, Setting.apply, given, serialSettings]
  | logLevel =>
      rcases Option.isSome_iff_exists.mp valid with ⟨level, parsed⟩
      simp [optionsOf, Setting.apply, given, serialSettings, parsed]
  | logFile => simp [optionsOf, Setting.apply, given, serialSettings]
  | serial => simp [optionsOf, Setting.apply, given, serialSettings]
  | baud => simp [optionsOf, Setting.apply, given, serialSettings]
  | parity =>
      rcases Option.isSome_iff_exists.mp valid with ⟨letter, parsed⟩
      simp [optionsOf, Setting.apply, given, serialSettings, parsed]
  | stopBits =>
      have admitted : ¬ (atoi text ≠ 1 ∧ atoi text ≠ 2) := by
        rintro ⟨notOne, notTwo⟩
        rcases valid with one | two
        · exact notOne one
        · exact notTwo two
      simp only [Setting.apply, if_neg admitted]
      simp [optionsOf, given, serialSettings]
  | config => simp [optionsOf, Setting.apply, given, serialSettings]

/-- A value is refused only if it is not valid. -/
theorem valid_of_apply {setting : Setting} {text : String}
    {options after : Options}
    (applied : setting.apply text options = .ok after) :
    (Item.setting setting text).Valid := by
  cases setting with
  | logLevel =>
      simp only [Setting.apply] at applied
      split at applied
      · rename_i level parsed
        exact Option.isSome_of_eq_some parsed
      · cases applied
  | parity =>
      simp only [Setting.apply] at applied
      split at applied
      · rename_i letter parsed
        exact Option.isSome_of_eq_some parsed
      · cases applied
  | stopBits =>
      simp only [Setting.apply] at applied
      split at applied
      · cases applied
      · rename_i admitted
        exact not_and_or.mp admitted |>.imp not_not.mp not_not.mp
  | ip => trivial
  | port => trivial
  | web => trivial
  | staticDir => trivial
  | logFile => trivial
  | serial => trivial
  | baud => trivial
  | config => trivial

end

/-! ## The loop -/

/-- Valid items are taken over one by one. -/
theorem Spells.parseLoop_append {items : List Item} {args : List String}
    (spells : Spells items args) (valid : ∀ item ∈ items, item.Valid)
    (before : List Item) (rest : List String) :
    parseLoop (optionsOf before) (args ++ rest) =
      parseLoop (optionsOf (before ++ items)) rest := by
  induction spells generalizing before with
  | nil => rw [List.append_nil, List.nil_append]
  | @flag flag name items args member _ ih =>
      rcases List.forall_mem_cons.mp valid with ⟨-, later⟩
      have named := (optionNamed_iff name (.flag flag)).mpr member
      rw [List.cons_append, parseLoop]
      simp only [named]
      rw [← optionsOf_flag, ih later, List.append_assoc,
        List.singleton_append]
  | @setting setting name text items args member _ ih =>
      rcases List.forall_mem_cons.mp valid with ⟨now, later⟩
      have named := (optionNamed_iff name (.setting setting)).mpr member
      rw [List.cons_append, List.cons_append, parseLoop]
      simp only [named, optionsOf_setting before now]
      rw [ih later, List.append_assoc, List.singleton_append]

/-- The rest of the arguments begins with one at which the loop stops. -/
inductive Stops : List String → Outcome → Prop where
  | help {name args} : name ∈ OptionName.help.names →
      Stops (name :: args) .help
  | unknown {arg args} : (∀ name : OptionName, arg ∉ name.names) →
      Stops (arg :: args) (.refused (.unknownOption arg))
  | incomplete {setting arg} : arg ∈ (OptionName.setting setting).names →
      Stops [arg] (.refused (.unknownOption arg))
  | invalid {setting name text refusal args} :
      name ∈ (OptionName.setting setting).names →
        setting.apply text {} = .error refusal →
          Stops (name :: text :: args) (.refused refusal)

/-- Whether a value is refused does not depend on the other variables. -/
theorem apply_error_iff (setting : Setting) (text : String)
    (options : Options) (refusal : Refusal) :
    setting.apply text options = .error refusal ↔
      setting.apply text {} = .error refusal := by
  cases setting with
  | logLevel =>
      simp only [Setting.apply]
      cases parseLogLevel text <;> simp
  | parity =>
      simp only [Setting.apply]
      cases parseParity text <;> simp
  | stopBits =>
      simp only [Setting.apply]
      split_ifs <;> simp
  | ip => simp [Setting.apply]
  | port => simp [Setting.apply]
  | web => simp [Setting.apply]
  | staticDir => simp [Setting.apply]
  | logFile => simp [Setting.apply]
  | serial => simp [Setting.apply]
  | baud => simp [Setting.apply]
  | config => simp [Setting.apply]

theorem Stops.parseLoop {rest : List String} {outcome : Outcome}
    (stops : Stops rest outcome) (options : Options) :
    parseLoop options rest = outcome := by
  cases stops with
  | @help name args member =>
      have named := (optionNamed_iff name .help).mpr member
      simp only [Utils.parseLoop, named]
  | @unknown arg args foreign =>
      have named : optionNamed arg = none := by
        apply Option.eq_none_iff_forall_ne_some.mpr
        intro name known
        exact foreign name ((optionNamed_iff arg name).mp known)
      simp only [Utils.parseLoop, named]
  | @incomplete setting arg member =>
      have named := (optionNamed_iff arg (.setting setting)).mpr member
      simp only [Utils.parseLoop, named]
  | @invalid setting name text refusal args member refused =>
      have named := (optionNamed_iff name (.setting setting)).mpr member
      have here := (apply_error_iff setting text options refusal).mpr refused
      simp only [Utils.parseLoop, named, here]

/-- Valid items, and possibly something that stops the loop after them. -/
def Splits (args : List String) : Prop :=
  ∃ items front rest, args = front ++ rest ∧ Spells items front ∧
    (∀ item ∈ items, item.Valid) ∧
      (rest = [] ∨ ∃ outcome, Stops rest outcome)

theorem Stops.splits {args : List String} {outcome : Outcome}
    (stops : Stops args outcome) : Splits args :=
  ⟨[], [], args, rfl, .nil, List.forall_mem_nil _, .inr ⟨outcome, stops⟩⟩

theorem splits (options : Options) (args : List String) :
    Splits args := by
  induction options, args using parseLoop.induct with
  | case1 options =>
      exact ⟨[], [], [], rfl, .nil, List.forall_mem_nil _, .inl rfl⟩
  | case2 options arg args named =>
      exact (Stops.help ((optionNamed_iff arg _).mp named)).splits
  | case3 options arg args flag named ih =>
      rcases ih with ⟨items, front, rest, rfl, spells, valid, ending⟩
      have member := (optionNamed_iff arg _).mp named
      exact ⟨.flag flag :: items, arg :: front, rest, rfl,
        .flag member spells, List.forall_mem_cons.mpr ⟨trivial, valid⟩,
        ending⟩
  | case4 options arg setting named =>
      exact (Stops.incomplete ((optionNamed_iff arg _).mp named)).splits
  | case5 options arg setting named text args after applied ih =>
      rcases ih with ⟨items, front, rest, rfl, spells, valid, ending⟩
      have member := (optionNamed_iff arg _).mp named
      exact ⟨.setting setting text :: items, arg :: text :: front, rest, rfl,
        .setting member spells,
        List.forall_mem_cons.mpr ⟨valid_of_apply applied, valid⟩, ending⟩
  | case6 options arg setting named text args refusal refused =>
      have here := (apply_error_iff setting text options refusal).mp refused
      exact (Stops.invalid ((optionNamed_iff arg _).mp named) here).splits
  | case7 options arg args named =>
      have foreign (name : OptionName) : arg ∉ name.names := by
        intro member
        have known := (optionNamed_iff arg name).mpr member
        rw [named] at known
        cases known
      exact (Stops.unknown foreign).splits

/-- Items that do not go together, with the first check that says so. -/
inductive Clash (items : List Item) : Refusal → Prop where
  | address : given .serial items = true →
      (given .ip items = true ∨ given .port items = true) →
        Clash items .serialWithAddress
  | demo : given .serial items = true → given .ip items = false →
      given .port items = false → flagged .demo items = true →
        Clash items .serialWithDemo
  | settings : given .serial items = false →
      serialSettings items = true → Clash items .serialSettingsAlone

/-- What arguments mean, without the loop. -/
inductive Means : List String → Outcome → Prop where
  | run {items args} : Spells items args → (∀ item ∈ items, item.Valid) →
      Compatible items → Means args (.run (optionsOf items))
  | clash {items args refusal} : Spells items args →
      (∀ item ∈ items, item.Valid) → Clash items refusal →
        Means args (.refused refusal)
  | stop {items front rest outcome} : Spells items front →
      (∀ item ∈ items, item.Valid) → Stops rest outcome →
        Means (front ++ rest) outcome

theorem checkOptions_run {items : List Item}
    (compatible : Compatible items) :
    checkOptions (optionsOf items) = .run (optionsOf items) := by
  rcases compatible with ⟨address, demo, settings⟩
  cases serial : given .serial items with
  | true =>
      rcases address serial with ⟨noIp, noPort⟩
      simp [checkOptions, optionsOf, serial, noIp, noPort, demo serial]
  | false =>
      have none : serialSettings items = false := by
        apply Bool.eq_false_iff.mpr
        intro set
        exact Bool.false_ne_true (serial.symm.trans (settings set))
      simp [checkOptions, optionsOf, serial, none]

theorem checkOptions_refused {items : List Item} {refusal : Refusal}
    (clash : Clash items refusal) :
    checkOptions (optionsOf items) = .refused refusal := by
  cases clash with
  | address serial address => simp [checkOptions, optionsOf, serial, address]
  | demo serial ip port demo =>
      simp [checkOptions, optionsOf, serial, ip, port, demo]
  | settings serial settings =>
      simp [checkOptions, optionsOf, serial, settings]

theorem compatible_or_clash (items : List Item) :
    Compatible items ∨ ∃ refusal, Clash items refusal := by
  cases serial : given .serial items with
  | false =>
      cases settings : serialSettings items with
      | false =>
          left
          constructor
          · exact fun given => absurd (serial.symm.trans given) (by decide)
          · exact fun given => absurd (serial.symm.trans given) (by decide)
          · exact fun set => absurd (settings.symm.trans set) (by decide)
      | true => exact Or.inr ⟨_, .settings serial settings⟩
  | true =>
      cases ip : given .ip items with
      | true => exact Or.inr ⟨_, .address serial (.inl ip)⟩
      | false =>
          cases port : given .port items with
          | true => exact Or.inr ⟨_, .address serial (.inr port)⟩
          | false =>
              cases demo : flagged .demo items with
              | true => exact Or.inr ⟨_, .demo serial ip port demo⟩
              | false =>
                  exact Or.inl
                    ⟨fun _ => ⟨ip, port⟩, fun _ => demo, fun _ => serial⟩

/-! ## Arguments and their meaning -/

theorem parseLoop_of_spells {items : List Item} {front : List String}
    (spells : Spells items front) (valid : ∀ item ∈ items, item.Valid)
    (rest : List String) :
    parseLoop {} (front ++ rest) = parseLoop (optionsOf items) rest :=
  spells.parseLoop_append valid [] rest

theorem Means.parsed {args : List String} {outcome : Outcome}
    (means : Means args outcome) : parseArguments args = outcome := by
  unfold parseArguments
  cases means with
  | @run items args spells valid compatible =>
      rw [← List.append_nil args, parseLoop_of_spells spells valid]
      exact checkOptions_run compatible
  | @clash items args refusal spells valid clash =>
      rw [← List.append_nil args, parseLoop_of_spells spells valid]
      exact checkOptions_refused clash
  | @stop items front rest outcome spells valid stops =>
      rw [parseLoop_of_spells spells valid, stops.parseLoop]
      cases stops with
      | help => rfl
      | unknown => rfl
      | incomplete => rfl
      | invalid => rfl

theorem exists_means (args : List String) :
    ∃ outcome, Means args outcome := by
  rcases splits {} args with
    ⟨items, front, rest, rfl, spells, valid, rfl | ⟨outcome, stops⟩⟩
  · rw [List.append_nil]
    rcases compatible_or_clash items with compatible | ⟨refusal, clash⟩
    · exact ⟨_, .run spells valid compatible⟩
    · exact ⟨_, .clash spells valid clash⟩
  · exact ⟨outcome, .stop spells valid stops⟩

/--
The arguments of `main` are accepted, refused or ask for help exactly as their
meaning says, which knows neither the loop nor its variables.
-/
theorem arguments_mean_iff (args : List String) (outcome : Outcome) :
    parseArguments args = outcome ↔ Means args outcome := by
  constructor
  · rintro rfl
    rcases exists_means args with ⟨outcome, means⟩
    rw [means.parsed]
    exact means
  · exact Means.parsed

example : parseArguments ["--serial", "/dev/ttyUSB0", "--baud", "19200",
      "--parity", "e", "-w", " 8081x", "--web", "80"] =
    .run
      { serialDevice := "/dev/ttyUSB0"
        baudRate := 19200
        parity := 'E'
        webPort := 80
        serialSpecified := true
        serialConfigSpecified := true } := by
  decide +kernel

end Windmi.Utils
