import Mathlib.Data.List.Nodup
import Mathlib.Data.List.Perm.Basic
import DomainRules.CommandLine.Reading
import DomainRules.Proofs.Choice

/-!
# Options in any order

Each option of an export can be written as one argument, and the input behind a `--` that
ends the options.  The main statement is that such arguments are read as the options they
were written from, in whatever order they stand and whatever text the values are, and that
the color may stand before the name of the command instead.  Only options that exclude each
other are refused, and these in any order, too.
-/

namespace DomainRules.CommandLine

/-! ## Options as arguments -/

/-- An argument that gives an option its value. -/
def attached (name value : String) : String :=
  "--" ++ name ++ "=" ++ value

/-- An option that is given to an export. -/
inductive Given where
  | output (path : String)
  | format (format : Format)
  | config (path : String)
  | pedantic
  | lenient
  | color (color : Color)
deriving DecidableEq

namespace Given

/-- How the option is written. -/
def argument : Given → String
  | .output path => attached "output" path
  | .format chosen => attached "format" chosen.word
  | .config path => attached "config" path
  | .pedantic => "--pedantic"
  | .lenient => "--lenient"
  | .color chosen => attached "color" chosen.word

/-- Which option it is. -/
def flag : Given → Flag
  | .output _ => .setting .output
  | .format _ => .setting .format
  | .config _ => .setting .config
  | .pedantic => .switch .pedantic
  | .lenient => .switch .lenient
  | .color _ => .setting .color

/-- Whether the option can be given: paths are not empty. -/
def Sound : Given → Prop
  | .output path => path ≠ ""
  | .config path => path ≠ ""
  | _ => True

/-- What has been read once the option has. -/
def addTo (record : Record) : Given → Record
  | .output path => { record with output? := some path }
  | .format chosen => { record with format? := some chosen }
  | .config path => { record with config? := some path }
  | .pedantic => { record with pedantic := true }
  | .lenient => { record with lenient := true }
  | .color chosen => { record with color? := some chosen }

end Given

/-- The options of an export, one after the other. -/
def ExportOptions.given (options : ExportOptions) (color? : Option Color) : List Given :=
  options.output?.toList.map .output ++ options.format?.toList.map .format ++
    options.config?.toList.map .config ++ (if options.pedantic then [.pedantic] else []) ++
    (if options.lenient then [.lenient] else []) ++ color?.toList.map .color

/-- The arguments of an export: options, and the input behind them. -/
def exportArguments (given : List Given) (input : String) : List String :=
  given.map Given.argument ++ ["--", input]

/-- What an export with these options comes to: it is asked for, unless it is to be
pedantic and lenient. -/
def ExportOptions.asked (options : ExportOptions) (color? : Option Color) :
    Except Stop Invocation :=
  if options.pedantic && options.lenient then .error .conflict
  else .ok ⟨.exportRules options, color?⟩

/-! ## One argument -/

namespace State

/-- What is behind the first equals sign is the value, other such signs included. -/
theorem takeLong_equals (state : State) (scope : Scope) {name : List Char}
    (plain : '=' ∉ name) (value : List Char) :
    state.takeLong scope (name ++ '=' :: value) =
      match scope.longNames.lookup (String.ofList name) with
      | none => .error .unknownArgument
      | some (.setting setting) => state.takeSetting setting (some (String.ofList value))
      | some (.switch _) => .error .surplusValue := by
  have passes : ∀ c ∈ name, decide (c ≠ '=') = true := by
    intro c member
    apply decide_eq_true
    rintro rfl
    exact plain member
  have isName : (name ++ '=' :: value).takeWhile (· ≠ '=') = name := by
    rw [List.takeWhile_append_of_pos passes]
    exact List.append_nil name
  have isValue : (name ++ '=' :: value).dropWhile (· ≠ '=') = '=' :: value :=
    List.dropWhile_append_of_pos passes
  rw [takeLong, isName, isValue]
  cases scope.longNames.lookup (String.ofList name) with
  | none => rfl
  | some flag =>
      cases flag with
      | setting setting => rfl
      | switch switch => rfl

theorem take_attached {state : State} (reading : state.trailing = false) (scope : Scope)
    {name : String} (plain : '=' ∉ name.toList) (value : String) :
    state.take scope (attached name value) =
      match scope.longNames.lookup name with
      | none => .error .unknownArgument
      | some (.setting setting) => state.takeSetting setting (some value)
      | some (.switch _) => .error .surplusValue := by
  have characters : (attached name value).toList =
      '-' :: '-' :: (name.toList ++ '=' :: value.toList) := by
    simp [attached]
  have isLong : state.take scope (attached name value) =
      state.takeLong scope (name.toList ++ '=' :: value.toList) := by
    rw [take, reading, characters]
    cases name.toList with
    | nil => rfl
    | cons first rest => rfl
  rw [isLong, takeLong_equals state scope plain, String.ofList_toList, String.ofList_toList]

end State

namespace Record

/-- Whether an option has not been given so far. -/
def lacks (record : Record) : Flag → Bool
  | .setting setting => !record.has setting
  | .switch .pedantic => !record.pedantic
  | .switch .lenient => !record.lenient
  | .switch .force => !record.force
  | .switch .help => true
  | .switch .version => true

theorem path_of_ne_empty {value : String} (present : value ≠ "") : path value = .ok value := by
  rw [path, if_neg (String.isEmpty_iff.not.mpr present)]

theorem choice_word_format (format : Format) : choice format.word = .ok format := by
  cases format with
  | yaml | json | text => rfl

theorem choice_word_color (color : Color) : choice color.word = .ok color := by
  cases color with
  | auto | always | never => rfl

end Record

namespace Given

theorem lacks_addTo (record : Record) (given : Given) {flag : Flag} (other : flag ≠ given.flag) :
    (given.addTo record).lacks flag = record.lacks flag := by
  cases given with
  | output | format | config | color =>
      cases flag with
      | switch switch => cases switch <;> rfl
      | setting setting => cases setting <;> first | rfl | exact absurd rfl other
  | pedantic | lenient =>
      cases flag with
      | setting setting => cases setting <;> rfl
      | switch switch => cases switch <;> first | rfl | exact absurd rfl other

theorem addTo_comm (record : Record) {first second : Given} (apart : first.flag ≠ second.flag) :
    second.addTo (first.addTo record) = first.addTo (second.addTo record) := by
  cases first with
  | output | format | config | pedantic | lenient | color =>
      cases second <;> first | rfl | exact absurd rfl apart

/-- An option with a value is set to it, if it has not been given. -/
theorem take_setting {scope : Scope} {setting : Setting} {name : String}
    (isName : scope.longNames.lookup name = some (.setting setting)) (plain : '=' ∉ name.toList)
    (record : Record) (value : String) :
    State.take ⟨record, .none, false⟩ scope (attached name value) =
      (record.set setting value).map fun record => ⟨record, .none, false⟩ := by
  rw [State.take_attached rfl scope plain, isName]
  change (record.set setting value >>= fun record => Except.ok _) = _
  cases record.set setting value with
  | error stop => rfl
  | ok set => rfl

/-- An option is read if it can be given and has not been. -/
theorem take_argument {given : Given} (sound : given.Sound) {record : Record}
    (lacks : record.lacks given.flag = true) :
    State.take ⟨record, .none, false⟩ .exportRules given.argument =
      .ok ⟨given.addTo record, .none, false⟩ := by
  cases given with
  | output path =>
      have unset : record.has .output = false := Bool.not_eq_true' _ |>.mp lacks
      rw [argument, take_setting rfl (by decide), Record.set, unset, Record.path_of_ne_empty sound]
      rfl
  | format chosen =>
      have unset : record.has .format = false := Bool.not_eq_true' _ |>.mp lacks
      rw [argument, take_setting rfl (by decide), Record.set, unset, Record.choice_word_format]
      rfl
  | config path =>
      have unset : record.has .config = false := Bool.not_eq_true' _ |>.mp lacks
      rw [argument, take_setting rfl (by decide), Record.set, unset, Record.path_of_ne_empty sound]
      rfl
  | pedantic =>
      have unset : record.pedantic = false := Bool.not_eq_true' _ |>.mp lacks
      change (record.turn .exportRules true .pedantic >>= fun record => Except.ok _) = _
      rw [Record.turn, unset]
      rfl
  | lenient =>
      have unset : record.lenient = false := Bool.not_eq_true' _ |>.mp lacks
      change (record.turn .exportRules true .lenient >>= fun record => Except.ok _) = _
      rw [Record.turn, unset]
      rfl
  | color chosen =>
      have unset : record.has .color = false := Bool.not_eq_true' _ |>.mp lacks
      rw [argument, take_setting rfl (by decide), Record.set, unset, Record.choice_word_color]
      rfl

/-! ## Runs of arguments -/

/-- Options that are given once each are read one after the other. -/
theorem foldlM_take_arguments {given : List Given} (sound : ∀ option ∈ given, option.Sound)
    (once : (given.map flag).Nodup) {record : Record}
    (lacks : ∀ option ∈ given, record.lacks option.flag = true) :
    (given.map argument).foldlM (fun state argument => State.take state .exportRules argument)
        ⟨record, .none, false⟩ =
      .ok ⟨given.foldl addTo record, .none, false⟩ := by
  induction given generalizing record with
  | nil => rfl
  | cons option given ih =>
      obtain ⟨fresh, onceRest⟩ := List.nodup_cons.mp once
      have soundRest : ∀ other ∈ given, other.Sound := by
        intro other member
        exact sound other (List.mem_cons_of_mem _ member)
      have lacksRest : ∀ other ∈ given, (option.addTo record).lacks other.flag = true := by
        intro other member
        have apart : other.flag ≠ option.flag := by
          intro same
          exact fresh (List.mem_map.mpr ⟨other, member, same⟩)
        rw [lacks_addTo record option apart]
        exact lacks other (List.mem_cons_of_mem _ member)
      rw [List.map_cons, List.foldlM_cons,
        take_argument (sound option List.mem_cons_self) (lacks option List.mem_cons_self)]
      exact ih soundRest onceRest lacksRest

/-- The order of options that are given once each leaves no trace. -/
theorem foldl_addTo_of_perm {first second : List Given} (order : first.Perm second)
    (once : (first.map flag).Nodup) (record : Record) :
    first.foldl addTo record = second.foldl addTo record := by
  apply order.foldl_eq'
  intro left isLeft right isRight record
  by_cases same : left.flag = right.flag
  · rw [List.inj_on_of_nodup_map once isLeft isRight same]
  · exact addTo_comm record same

theorem input_foldl_addTo (given : List Given) (record : Record) :
    (given.foldl addTo record).input? = record.input? := by
  induction given generalizing record with
  | nil => rfl
  | cons option given ih =>
      rw [List.foldl_cons, ih]
      cases option <;> rfl

/-- Options stand before the marker, and the input is what stands behind it. -/
theorem takeAll_exportArguments {given : List Given} (sound : ∀ option ∈ given, option.Sound)
    (once : (given.map flag).Nodup) (input : String) :
    State.takeAll {} .exportRules (exportArguments given input) =
      .ok { given.foldl addTo {} with input? := some input } := by
  have lacks : ∀ option ∈ given, Record.lacks {} option.flag = true := by
    intro option _
    cases option <;> rfl
  have unread : (given.foldl addTo {}).input?.isSome = false := by
    rw [input_foldl_addTo]
    rfl
  have takes : State.take ⟨given.foldl addTo {}, .none, true⟩ .exportRules input =
      .ok ⟨{ given.foldl addTo {} with input? := some input }, .none, true⟩ := by
    change State.takePlain _ .exportRules input = _
    rw [State.takePlain, unread]
    rfl
  rw [State.takeAll, exportArguments, List.foldlM_append, foldlM_take_arguments sound once lacks]
  change (State.take ⟨given.foldl addTo {}, .none, true⟩ .exportRules input >>= pure) >>=
    State.settle = _
  rw [takes]
  rfl

end Given

namespace Invocation

/-- The color of the command counts before that of the program. -/
theorem ofState_export (record : Record) (arguments : List String) :
    ofState ⟨record, .none, false⟩ ("export" :: arguments) =
      (Command.ofArguments "export" arguments).map fun read =>
        ⟨read.1, read.2.or record.color?⟩ := by
  have isName : (!false && State.commandNames.contains "export") = true := by decide
  rw [ofState]
  simp only [isName]
  cases Command.ofArguments "export" arguments with
  | error stop => rfl
  | ok read => rfl

/-- A color before the name of the command is the program's own. -/
theorem ofState_color (color : Color) (arguments : List String) :
    ofState {} (attached "color" color.word :: arguments) =
      ofState ⟨{ color? := some color }, .none, false⟩ arguments := by
  have isNoName : (!false && State.commandNames.contains (attached "color" color.word)) =
      false := by
    cases color <;> decide
  have takes : State.take {} .program (attached "color" color.word) =
      .ok ⟨{ color? := some color }, .none, false⟩ := by
    rw [Given.take_setting rfl (by decide), Record.set, Record.choice_word_color]
    rfl
  rw [ofState]
  simp only [isNoName, takes]
  rfl

end Invocation

namespace ExportOptions

variable {options : ExportOptions} {color? : Option Color}

/-! ## Exports -/

theorem nodup_flag_given (options : ExportOptions) (color? : Option Color) :
    ((options.given color?).map Given.flag).Nodup := by
  have parts : ((options.given color?).map Given.flag).Sublist
      ([.setting .output] ++ [.setting .format] ++ [.setting .config] ++ [.switch .pedantic] ++
        [.switch .lenient] ++ [.setting .color]) := by
    simp only [given, List.map_append]
    refine (((((List.Sublist.append ?_ ?_).append ?_).append ?_).append ?_).append ?_)
    · cases options.output? <;> simp [Given.flag]
    · cases options.format? <;> simp [Given.flag]
    · cases options.config? <;> simp [Given.flag]
    · cases options.pedantic <;> simp [Given.flag]
    · cases options.lenient <;> simp [Given.flag]
    · cases color? <;> simp [Given.flag]
  exact List.Nodup.sublist parts (by decide)

theorem foldl_addTo_given (options : ExportOptions) (color? : Option Color) :
    (options.given color?).foldl Given.addTo {} =
      ⟨none, options.output?, options.format?, options.config?, color?, options.pedantic,
        options.lenient, false⟩ := by
  rcases options with ⟨input, output?, format?, pedantic, lenient, config?⟩
  cases output? <;> cases format? <;> cases config? <;> cases pedantic <;> cases lenient <;>
    cases color? <;> rfl

theorem sound_of_mem_given
    (paths : ∀ path, options.output? = some path ∨ options.config? = some path → path ≠ "")
    {option : Given} (member : option ∈ options.given color?) : option.Sound := by
  cases option with
  | output path =>
      apply paths path
      left
      simpa [given] using member
  | config path =>
      apply paths path
      right
      simpa [given] using member
  | format | pedantic | lenient | color => trivial

/-- The arguments of an export, its options in any order, are read as these options. -/
theorem ofArguments_exportArguments
    (paths : ∀ path, options.output? = some path ∨ options.config? = some path → path ≠ "")
    {written : List Given} (order : written.Perm (options.given color?)) :
    Command.ofArguments "export" (exportArguments written options.input) =
      (options.asked color?).map fun invocation => (invocation.command, invocation.color?) := by
  have sound : ∀ option ∈ written, option.Sound := by
    intro option member
    exact sound_of_mem_given paths (order.mem_iff.mp member)
  have once : (written.map Given.flag).Nodup :=
    (order.map Given.flag).nodup_iff.mpr (nodup_flag_given options color?)
  have read := Given.takeAll_exportArguments sound once options.input
  rw [Given.foldl_addTo_of_perm order once, foldl_addTo_given] at read
  rw [Command.ofArguments, if_pos rfl, read, asked]
  change (Command.ofExportRecord _ >>= fun command => Except.ok (command, color?)) = _
  rw [Command.ofExportRecord]
  split
  · rfl
  · rfl

/-- Command lines that are written from options come to what these ask for, whatever the
order and wherever the color stands. -/
theorem ofArguments_in_any_order (options : ExportOptions) (color? : Option Color)
    (paths : ∀ path, options.output? = some path ∨ options.config? = some path → path ≠ "") :
    (∀ written : List Given, written.Perm (options.given color?) →
        Invocation.ofArguments ("export" :: exportArguments written options.input) =
          options.asked color?) ∧
      ∀ (color : Color) (written : List Given), color? = some color →
        written.Perm (options.given none) →
        Invocation.ofArguments
            (attached "color" color.word :: "export" :: exportArguments written options.input) =
          options.asked color? := by
  constructor
  · intro written order
    rw [Invocation.ofArguments, Invocation.ofState_export, ofArguments_exportArguments paths order]
    cases exclusive : options.pedantic && options.lenient with
    | true => simp [asked, exclusive, Except.map]
    | false => simp [asked, exclusive, Except.map]
  · rintro color written rfl order
    rw [Invocation.ofArguments, Invocation.ofState_color, Invocation.ofState_export,
      ofArguments_exportArguments paths order]
    cases exclusive : options.pedantic && options.lenient with
    | true => simp [asked, exclusive, Except.map]
    | false => simp [asked, exclusive, Except.map]

/-- Options whose values look like options and markers. -/
def oddOptions : ExportOptions :=
  ⟨"--", some "--format=text", some .json, true, false, some "a=b"⟩

theorem oddOptions_read :
    (∀ path, oddOptions.output? = some path ∨ oddOptions.config? = some path → path ≠ "") ∧
      List.Perm [.color .never, .pedantic, .config "a=b", .output "--format=text", .format .json]
        (oddOptions.given (some .never)) ∧
      Invocation.ofArguments ["export", "--color=never", "--pedantic", "--config=a=b",
          "--output=--format=text", "--format=json", "--", "--"] =
        .ok ⟨.exportRules oddOptions, some .never⟩ := by
  have paths : ∀ path, oddOptions.output? = some path ∨ oddOptions.config? = some path →
      path ≠ "" := by
    rintro path (isOutput | isConfig)
    · cases isOutput
      decide
    · cases isConfig
      decide
  have order : List.Perm
      [.color .never, .pedantic, .config "a=b", .output "--format=text", .format .json]
      (oddOptions.given (some .never)) := by
    decide
  exact ⟨paths, order, (ofArguments_in_any_order oddOptions (some .never) paths).1 _ order⟩

end ExportOptions

end DomainRules.CommandLine
