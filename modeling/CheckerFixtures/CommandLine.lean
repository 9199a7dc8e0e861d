/-
**The command line.**

Arguments are read from left to right. Options may stand before or behind the command; a command
has options of its own besides the common ones. Every misuse has the same answer, a request for
help or for the version is answered as soon as it is met.

* `Item.ofArguments`: the arguments as options and words;
* `Request.ofArguments`: what the arguments ask for;
* `ofArguments_nil`: no arguments at all are a misuse.
-/

import CheckerFixtures.Report

namespace CheckerFixtures

/-! ### Requests -/

/-- What can be done. -/
inductive Command where
  /-- Reports the expectations below a path, or below the configured root. -/
  | pragmas (path? : Option Path) (format : Report.Format) (exclude : List String)
  | languages
  /-- Writes a first configuration file, over an existing one only if told to. -/
  | init (force : Bool)
deriving DecidableEq, Repr

/-- What the arguments ask for. -/
inductive Request where
  | misuse
  | help
  | version
  /-- Runs a command, perhaps with a given configuration file. -/
  | run (config? : Option Path) (command : Command)
deriving DecidableEq, Repr

namespace CommandLine

/-! ### Options -/

/-- Where an argument stands: in front of the command, or behind it. -/
inductive Level where
  | top
  | pragmas
  | languages
  | init
deriving DecidableEq, Repr

def Level.ofName? : String → Option Level
  | "pragmas" => some pragmas
  | "languages" => some languages
  | "init" => some init
  | _ => none

/-- An option without a value. -/
inductive Switch where
  | verbose
  | force
  | help
  | version
deriving DecidableEq, Repr

/-- An option with a value. -/
inductive Setting where
  | config
  | format
  | exclude
deriving DecidableEq, Repr

/-- The option of a long name. -/
def long? (level : Level) (name : String) : Option (Switch ⊕ Setting) :=
  match level, name with
  | _, "verbose" => some (.inl .verbose)
  | _, "config" => some (.inr .config)
  | _, "help" => some (.inl .help)
  | .top, "version" => some (.inl .version)
  | .pragmas, "format" => some (.inr .format)
  | .pragmas, "exclude" => some (.inr .exclude)
  | .init, "force" => some (.inl .force)
  | _, _ => none

/-- The option of a letter. -/
def short? (level : Level) (letter : Char) : Option (Switch ⊕ Setting) :=
  match level, letter with
  | _, 'v' => some (.inl .verbose)
  | _, 'c' => some (.inr .config)
  | _, 'h' => some (.inl .help)
  | .top, 'V' => some (.inl .version)
  | .pragmas, 'f' => some (.inr .format)
  | .pragmas, 'e' => some (.inr .exclude)
  | _, _ => none

/-! ### Arguments as items -/

/-- What an argument says. -/
inductive Item where
  | switch (switch : Switch)
  | setting (setting : Setting) (value : String)
  | word (text : String)
  /-- The name of a command. -/
  | enter (level : Level)
  /-- No known option, or one that lacks its value. -/
  | invalid
deriving DecidableEq, Repr

/-- The items of an argument, and an option at its end that still needs a value. -/
structure Options where
  items : List Item
  pending? : Option Setting := none

/-- The options of some letters. The first one with a value takes the rest as its value, without
an equals sign in front; without a rest it needs the next argument. -/
def ofLetters (level : Level) : List Char → Options
  | [] => ⟨[], none⟩
  | letter :: rest =>
    match short? level letter with
    | none => ⟨[.invalid], none⟩
    | some (.inl switch) =>
      let more := ofLetters level rest
      ⟨.switch switch :: more.items, more.pending?⟩
    | some (.inr setting) =>
      match rest with
      | [] => ⟨[], some setting⟩
      -- a second equals sign belongs to the value
      | '=' :: value => ⟨[.setting setting (String.ofList value)], none⟩
      | value => ⟨[.setting setting (String.ofList value)], none⟩

/-- The option of a long name, perhaps with a value behind an equals sign. -/
def ofLongName (level : Level) (text : List Char) : Options :=
  let name := String.ofList (text.takeWhile (· ≠ '='))
  match long? level name, text.dropWhile (· ≠ '=') with
  | some (.inl switch), [] => ⟨[.switch switch], none⟩
  | some (.inr setting), [] => ⟨[], some setting⟩
  | some (.inr setting), _ :: value => ⟨[.setting setting (String.ofList value)], none⟩
  | _, _ => ⟨[.invalid], none⟩

/-- How an argument is to be taken. -/
inductive Shape where
  | word
  /-- Two dashes: all arguments behind are words. -/
  | divider
  | options (options : Options)

/-- The shape of an argument. A single dash is a word. -/
def Shape.of (level : Level) (argument : String) : Shape :=
  match argument.toList with
  | ['-', '-'] => divider
  | '-' :: '-' :: text => options (ofLongName level text)
  | '-' :: letter :: letters => options (ofLetters level (letter :: letters))
  | _ => word

/-- Whether an argument can be the value of the option in front of it. -/
def isValue (level : Level) (argument : String) : Bool :=
  match Shape.of level argument with
  | .word => true
  | _ => false

/-- A request for help on a command, or on all of them. -/
def helpItem (arguments : List String) : Item :=
  match arguments with
  | [] => .switch .help
  | [name] => if name = "help" ∨ (Level.ofName? name).isSome then .switch .help else .invalid
  | _ => .invalid

/-- The arguments at a level as items, up to the first one that cannot be read. -/
def Item.ofArguments (level : Level) : List String → List Item
  | [] => []
  | argument :: rest =>
    match Shape.of level argument with
    | .word =>
      if level ≠ .top then .word argument :: ofArguments level rest
      else
        match Level.ofName? argument with
        | some next => .enter next :: ofArguments next rest
        | none => [if argument = "help" then helpItem rest else .invalid]
    | .divider => if level = .top then [.invalid] else rest.map .word
    | .options ⟨items, none⟩ => items ++ ofArguments level rest
    | .options ⟨items, some pending⟩ =>
      items ++
        match rest with
        | [] => [.invalid]
        | value :: rest =>
          if isValue level value then .setting pending value :: ofArguments level rest
          else [.invalid]

/-! ### Items as requests -/

/-- What has been asked for so far. -/
structure Draft where
  level : Level := .top
  /-- The options without a value at this level. -/
  switches : List Switch := []
  /-- The configuration file that was given at this level. -/
  config? : Option String := none
  /-- The one that was given in front of the command. -/
  outerConfig? : Option String := none
  format? : Option Report.Format := none
  exclude : List String := []
  path? : Option String := none

namespace Draft

/-- Takes an option without a value into account. None may be repeated at a level. -/
def withSwitch (draft : Draft) (switch : Switch) : Except Request Draft :=
  match switch with
  | .help => .error .help
  | .version => .error .version
  | other =>
    if other ∈ draft.switches then .error .misuse
    else .ok { draft with switches := other :: draft.switches }

/-- Takes an option with a value into account. Only patterns may be repeated or empty. -/
def withSetting (draft : Draft) (setting : Setting) (value : String) : Except Request Draft :=
  match setting with
  | .config =>
    if value = "" ∨ draft.config?.isSome then .error .misuse
    else .ok { draft with config? := some value }
  | .format =>
    match draft.format?, Report.Format.ofName? value with
    | none, some format => .ok { draft with format? := some format }
    | _, _ => .error .misuse
  | .exclude => .ok { draft with exclude := draft.exclude ++ [value] }

/-- Takes an item into account. -/
def step (draft : Draft) : Item → Except Request Draft
  | .switch switch => draft.withSwitch switch
  | .setting setting value => draft.withSetting setting value
  | .word text =>
    if draft.level ≠ .pragmas ∨ draft.path?.isSome ∨ text = "" then .error .misuse
    else .ok { draft with path? := some text }
  | .enter level =>
    -- options are counted anew behind the command; only a given file is kept
    .ok { draft with level, switches := [], config? := none, outerConfig? := draft.config? }
  | .invalid => .error .misuse

/-- The request of a command line that has been read to its end. -/
def request (draft : Draft) : Request :=
  let config? := (draft.config?.or draft.outerConfig?).map Path.mk
  match draft.level with
  | .top => .misuse
  | .pragmas =>
    .run config? (.pragmas (draft.path?.map Path.mk) (draft.format?.getD .text) draft.exclude)
  | .languages => .run config? .languages
  | .init => .run config? (.init (draft.switches.contains .force))

end Draft

end CommandLine

open CommandLine in
/-- What the arguments ask for. -/
def Request.ofArguments (arguments : List String) : Request :=
  match (Item.ofArguments .top arguments).foldlM Draft.step {} with
  | .error request => request
  | .ok draft => draft.request

namespace Request

/-! ### Laws -/

/-- No arguments at all are a misuse. -/
theorem ofArguments_nil : ofArguments [] = misuse := rfl

end Request

end CheckerFixtures
