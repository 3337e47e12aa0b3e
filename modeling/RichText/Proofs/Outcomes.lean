import RichText.Proofs.ChatDocuments
import RichText.Proofs.Outlines

/-!
# How the command ends

A run of the command goes through five stages: its arguments, its configuration, the file of the
document, the document in it, and rendering that.  It prints the HTML of the document if all of them
succeed, and otherwise the error of the first one that fails (`Command.Invocation.Ends`).  What is
printed depends on nothing but the text of the document: settings of the renderer are only found
in the log.
-/

namespace RichText

namespace Config

/-! ### Configuration files -/

/-- The settings that a configuration file stands for: none is as good as one that says nothing, and
the path of documents is expanded. -/
inductive Gives (surroundings : Surroundings) : FileText → Config → Prop where
  | absent {fault : FileFault} (hfile : FileText.isPresent (.error fault) = false) :
      Gives surroundings (.error fault) default
  | valid {text : String} {table : Toml} {config : Config} (htable : Toml.parse text = some table)
      (hconfig : ofToml table = some config) :
      Gives surroundings (.ok text) (config.expand surroundings)

/-- What is wrong with the configuration file at a path: it is there and cannot be read, or it is
malformed or has values of wrong types. -/
inductive Fails (path : String) : FileText → ConfigError → Prop where
  | unreadable {fault : FileFault} (hfile : FileText.isPresent (.error fault) = true) :
      Fails path (.error fault) (.unreadable path fault)
  | malformed {text : String} (htext : (Toml.parse text).bind ofToml = none) :
      Fails path (.ok text) (.malformed path)

variable {surroundings : Surroundings} {file : FileText}

/-- A file that stands for settings is loaded as them, or is not there. -/
theorem load_of_gives {config : Config} (h : Gives surroundings file config) (path : String) :
  ∃ found, load surroundings path file = .ok found ∧ found.getD default = config
  := by
  cases h with
  | absent hfile =>
    use none
    rw [load, read, hfile]
    exact ⟨rfl, rfl⟩
  | @valid text table config htable hconfig =>
    use some (config.expand surroundings)
    rw [load, read, htable, Option.bind_some, hconfig]
    exact ⟨rfl, rfl⟩

theorem load_of_fails {path : String} {error : ConfigError} (h : Fails path file error) :
  load surroundings path file = .error error
  := by
  cases h with
  | unreadable hfile =>
    rw [load, read, hfile]
    rfl
  | malformed htext =>
    rw [load, read, htext]
    rfl

/-- A file stands for settings unless something is wrong with it. -/
theorem exists_gives_or_fails (surroundings : Surroundings) (path : String) (file : FileText) :
  (∃ config, Gives surroundings file config) ∨ ∃ error, Fails path file error
  := by
  cases file with
  | error fault =>
    cases hfile : FileText.isPresent (.error fault) with
    | false => exact .inl ⟨default, .absent hfile⟩
    | true => exact .inr ⟨_, .unreadable hfile⟩
  | ok text =>
    cases hconfig : (Toml.parse text).bind ofToml with
    | none => exact .inr ⟨_, .malformed hconfig⟩
    | some config =>
      obtain ⟨table, htable, hconfig⟩ := Option.bind_eq_some_iff.mp hconfig
      exact .inl ⟨_, .valid htable hconfig⟩

end Config

namespace Command

open Chat (documentType)

/-! ### Documents -/

section

variable {text : String} {document : Node}

theorem renderDocument_of_error {error : SchemaError}
    (h : Chat.schema.documentOfText text = .error error) (renderer : Renderer) :
  (renderDocument renderer text).2 = .error (.unreadable error)
  := by
  rw [renderDocument, h]

variable (hdocument : Chat.schema.documentOfText text = .ok document)

include hdocument

/-- A document without documents in it is rendered as its reference elements, whatever the settings
of the renderer are. -/
theorem renderDocument_of_flat
    (hnodes : ∀ node ∈ Node.nodesOf document.content, node.typeName ≠ documentType)
    (displayName : Option String) (options : RendererOptions) :
  (renderDocument (Renderer.ofSchema Chat.schema displayName options) text).2
    = .ok (Element.htmlAll (Chat.schema.referenceAll document.content))
  := by
  obtain ⟨source, -, hresolve⟩ := Schema.document_eq_ok_iff.mp hdocument
  obtain ⟨elements, helements⟩ := (Chat.exists_renderAll_iff displayName options Table.empty
    (Chat.declares_content hresolve)).mpr hnodes
  obtain ⟨-, hreference⟩ := (Renderer.renderAll_eq_ok_iff displayName options Table.empty
    Chat.schema_factoryFree _ _).mp helements
  apply Chat.renderDocument_eq_ok_iff.mpr
  use document, hdocument
  rw [Renderer.renderHtml, Render.result_bind, helements, hreference]
  rfl

/-- A document with a document in it is not rendered, whatever the settings of the renderer are. -/
theorem renderDocument_of_nested {node : Node} (hnode : node ∈ Node.nodesOf document.content)
    (htype : node.typeName = documentType) (displayName : Option String)
    (options : RendererOptions) :
  (renderDocument (Renderer.ofSchema Chat.schema displayName options) text).2
    = .error (.unrenderable (.unknownType .node documentType))
  := by
  obtain ⟨source, -, hresolve⟩ := Schema.document_eq_ok_iff.mp hdocument
  have hdeclared := Chat.declares_content hresolve
  cases hresult : (renderDocument (Renderer.ofSchema Chat.schema displayName options) text).2 with
  | ok html =>
    obtain ⟨document', hdocument', hhtml⟩ := Chat.renderDocument_eq_ok_iff.mp hresult
    obtain rfl := Except.ok.inj (hdocument.symm.trans hdocument')
    have hnodes := (Chat.exists_renderHtml_iff displayName options Table.empty hdeclared).mp
      ⟨html, hhtml⟩
    exact absurd htype (hnodes node hnode)
  | error error =>
    obtain ⟨fault, hfault, rfl⟩ := Chat.exists_renderHtml_error hdocument hresult
    rw [Chat.renderHtml_error_eq displayName options Table.empty hdeclared hfault]

end

/-- The settings of the renderer do not matter to what a document is rendered as. -/
theorem renderDocument_congr (text : String) (displayName displayName' : Option String)
    (options options' : RendererOptions) :
  (renderDocument (Renderer.ofSchema Chat.schema displayName options) text).2
    = (renderDocument (Renderer.ofSchema Chat.schema displayName' options') text).2
  := by
  cases hdocument : Chat.schema.documentOfText text with
  | error error => rw [renderDocument_of_error hdocument, renderDocument_of_error hdocument]
  | ok document =>
    by_cases hnodes : ∀ node ∈ Node.nodesOf document.content, node.typeName ≠ documentType
    · rw [renderDocument_of_flat hdocument hnodes, renderDocument_of_flat hdocument hnodes]
    · push Not at hnodes
      obtain ⟨node, hnode, htype⟩ := hnodes
      rw [renderDocument_of_nested hdocument hnode htype,
        renderDocument_of_nested hdocument hnode htype]

/-! ### Runs -/

/-- The result of a plan: the file of the document is read, and the document is rendered. -/
def Plan.result (plan : Plan) (read : String → FileText) : Except CommandError String :=
  (read plan.path).mapError (.file plan.path) >>= fun text =>
    (renderDocument plan.renderer text).2.mapError .document

/-- The result of a run is that of its stages, one after the other. -/
theorem result_run (surroundings : Surroundings) (configFile : FileText)
    (read : String → FileText) (arguments : List String) :
  (run surroundings configFile read arguments).result
    = (Arguments.read arguments).mapError .arguments >>= fun arguments =>
      (Config.load surroundings (Config.path surroundings.home) configFile).mapError .config
        >>= fun config =>
      (plan arguments (config.getD Config.default)).result read
  := by
  rw [run, prepare]
  cases Arguments.read arguments with
  | error error => rfl
  | ok arguments =>
    rw [mapError_ok, ok_bind]
    dsimp only
    cases Config.load surroundings (Config.path surroundings.home) configFile with
    | error error => rfl
    | ok config =>
      rw [mapError_ok, ok_bind, Plan.result]
      dsimp only
      cases read (plan arguments (config.getD Config.default)).path with
      | error fault => rfl
      | ok text => rfl

/-- What the outcome of a run depends on: the surroundings, the configuration file, the other files
and the arguments. -/
structure Invocation where
  surroundings : Surroundings
  configFile : FileText
  read : String → FileText
  arguments : List String

namespace Invocation

variable (invocation : Invocation)

/-- The outcome of the run. -/
def outcome : Outcome :=
  run invocation.surroundings invocation.configFile invocation.read invocation.arguments

/-- The arguments can be understood, the configuration file is good, and the file of the document
holds this text. -/
def Reads (text : String) : Prop :=
  ∃ arguments config, Arguments.read invocation.arguments = .ok arguments
    ∧ Config.Gives invocation.surroundings invocation.configFile config
    ∧ invocation.read (resolvePath arguments.document config.documentsPath) = .ok text

/-- The ways in which a run can end.  Every stage asks for the success of all stages before it. -/
inductive Ends : Except CommandError String → Prop where
  | arguments {error : ArgumentError}
      (harguments : Arguments.read invocation.arguments = .error error) :
      Ends (.error (.arguments error))
  | config {arguments : Arguments} {error : ConfigError}
      (harguments : Arguments.read invocation.arguments = .ok arguments)
      (hconfig : Config.Fails (Config.path invocation.surroundings.home) invocation.configFile
        error) :
      Ends (.error (.config error))
  | file {arguments : Arguments} {config : Config} {path : String} {fault : FileFault}
      (harguments : Arguments.read invocation.arguments = .ok arguments)
      (hconfig : Config.Gives invocation.surroundings invocation.configFile config)
      (hpath : path = resolvePath arguments.document config.documentsPath)
      (hfile : invocation.read path = .error fault) :
      Ends (.error (.file path fault))
  | document {text : String} {error : SchemaError} (htext : invocation.Reads text)
      (hdocument : Chat.schema.documentOfText text = .error error) :
      Ends (.error (.document (.unreadable error)))
  | render {text : String} {document node : Node} (htext : invocation.Reads text)
      (hdocument : Chat.schema.documentOfText text = .ok document)
      (hnode : node ∈ Node.nodesOf document.content) (htype : node.typeName = documentType) :
      Ends (.error (.document (.unrenderable (.unknownType .node documentType))))
  | printed {text : String} {document : Node} (htext : invocation.Reads text)
      (hdocument : Chat.schema.documentOfText text = .ok document)
      (hnodes : ∀ node ∈ Node.nodesOf document.content, node.typeName ≠ documentType) :
      Ends (.ok (Element.htmlAll (Chat.schema.referenceAll document.content)))

variable {invocation}

/-- With arguments and a configuration, the result is that of the plan for them. -/
theorem result_of_gives {arguments : Arguments} {config : Config}
    (harguments : Arguments.read invocation.arguments = .ok arguments)
    (hconfig : Config.Gives invocation.surroundings invocation.configFile config) :
  invocation.outcome.result = (plan arguments config).result invocation.read
  := by
  obtain ⟨found, hload, rfl⟩ := Config.load_of_gives hconfig
    (Config.path invocation.surroundings.home)
  rw [outcome, result_run, harguments, mapError_ok, ok_bind, hload, mapError_ok, ok_bind]

/-- Once the text of the document is there, the result is that of the document for a renderer with
some settings. -/
theorem exists_result_of_reads {text : String} (h : invocation.Reads text) :
  ∃ displayName options, invocation.outcome.result
    = (renderDocument (Renderer.ofSchema Chat.schema displayName options) text).2.mapError
      .document
  := by
  obtain ⟨arguments, config, harguments, hconfig, hfile⟩ := h
  have hread : invocation.read (plan arguments config).path = .ok text := hfile
  rw [result_of_gives harguments hconfig, Plan.result, hread, mapError_ok, ok_bind]
  exact ⟨_, _, rfl⟩

/-- A run has the result with which it ends. -/
theorem Ends.result_eq {result : Except CommandError String} (h : invocation.Ends result) :
  invocation.outcome.result = result
  := by
  cases h with
  | arguments harguments =>
    rw [outcome, result_run, harguments]
    rfl
  | config harguments hconfig =>
    rw [outcome, result_run, harguments, mapError_ok, ok_bind, Config.load_of_fails hconfig]
    rfl
  | @file arguments config path fault harguments hconfig hpath hfile =>
    have hread : invocation.read (plan arguments config).path = .error fault := by
      rwa [hpath] at hfile
    rw [result_of_gives harguments hconfig, Plan.result, hread, hpath]
    rfl
  | document htext hdocument =>
    obtain ⟨displayName, options, hresult⟩ := exists_result_of_reads htext
    rw [hresult, renderDocument_of_error hdocument]
    rfl
  | render htext hdocument hnode htype =>
    obtain ⟨displayName, options, hresult⟩ := exists_result_of_reads htext
    rw [hresult, renderDocument_of_nested hdocument hnode htype]
    rfl
  | printed htext hdocument hnodes =>
    obtain ⟨displayName, options, hresult⟩ := exists_result_of_reads htext
    rw [hresult, renderDocument_of_flat hdocument hnodes]
    rfl

/-- A run that prints has come past all stages. -/
theorem Ends.exists_document {html : String} (h : invocation.Ends (.ok html)) :
  ∃ text document, invocation.Reads text ∧ Chat.schema.documentOfText text = .ok document
    ∧ ∀ node ∈ Node.nodesOf document.content, node.typeName ≠ documentType
  := by
  cases h with
  | @printed text document htext hdocument hnodes =>
    exact ⟨text, document, htext, hdocument, hnodes⟩

variable (invocation)

/-- Every run ends in one of these ways. -/
theorem exists_ends :
  ∃ result, invocation.Ends result
  := by
  cases harguments : Arguments.read invocation.arguments with
  | error error => exact ⟨_, .arguments harguments⟩
  | ok arguments =>
    rcases Config.exists_gives_or_fails invocation.surroundings
        (Config.path invocation.surroundings.home) invocation.configFile with
      ⟨config, hconfig⟩ | ⟨error, hconfig⟩
    · cases hfile : invocation.read (resolvePath arguments.document config.documentsPath) with
      | error fault => exact ⟨_, .file harguments hconfig rfl hfile⟩
      | ok text =>
        have htext : invocation.Reads text := ⟨arguments, config, harguments, hconfig, hfile⟩
        cases hdocument : Chat.schema.documentOfText text with
        | error error => exact ⟨_, .document htext hdocument⟩
        | ok document =>
          by_cases hnodes : ∀ node ∈ Node.nodesOf document.content, node.typeName ≠ documentType
          · exact ⟨_, .printed htext hdocument hnodes⟩
          · push Not at hnodes
            obtain ⟨node, hnode, htype⟩ := hnodes
            exact ⟨_, .render htext hdocument hnode htype⟩
    · exact ⟨_, .config harguments hconfig⟩

theorem code_eq_zero_iff :
  invocation.outcome.code = 0
    ↔ ∃ text document, invocation.Reads text ∧ Chat.schema.documentOfText text = .ok document
      ∧ ∀ node ∈ Node.nodesOf document.content, node.typeName ≠ documentType
  := by
  constructor
  · intro hcode
    obtain ⟨result, hends⟩ := invocation.exists_ends
    cases result with
    | error error =>
      rw [Outcome.code, hends.result_eq] at hcode
      simp at hcode
    | ok html => exact hends.exists_document
  · rintro ⟨text, document, htext, hdocument, hnodes⟩
    rw [Outcome.code, (Ends.printed htext hdocument hnodes).result_eq]

/-- Runs whose files hold the same text have the same result. -/
theorem result_eq_of_reads {other : Invocation} {text : String} (htext : invocation.Reads text)
    (hother : other.Reads text) :
  invocation.outcome.result = other.outcome.result
  := by
  obtain ⟨displayName, options, hresult⟩ := exists_result_of_reads htext
  obtain ⟨displayName', options', hresult'⟩ := exists_result_of_reads hother
  rw [hresult, hresult', renderDocument_congr text displayName displayName']

/-- A run ends in exactly one of the ways.  It succeeds exactly if the arguments can be understood,
the configuration file is good, the file of the document can be read, and its text is a chat
document with no document in it.  Then it prints the HTML of the content and a line break;
otherwise it prints nothing, and below the log it shows the error of the first stage that fails.
Runs whose files hold the same text print the same, whatever the arguments and the configurations
are. -/
theorem ends_at_first_failing_stage :
  (∀ result, invocation.outcome.result = result ↔ invocation.Ends result)
    ∧ (invocation.outcome.code = 0
      ↔ ∃ text document, invocation.Reads text
          ∧ Chat.schema.documentOfText text = .ok document
          ∧ ∀ node ∈ Node.nodesOf document.content, node.typeName ≠ documentType)
    ∧ (∀ html, invocation.Ends (.ok html) →
        invocation.outcome.code = 0 ∧ invocation.outcome.output = html ++ "\n")
    ∧ (∀ error, invocation.Ends (.error error) →
        invocation.outcome.code = 1 ∧ invocation.outcome.output = ""
          ∧ invocation.outcome.errorOutput
            = String.join (invocation.outcome.records.map recordText)
              ++ ("Error: " ++ error.message ++ "\n"))
    ∧ ∀ (other : Invocation) (text : String), invocation.Reads text → other.Reads text →
        invocation.outcome.code = other.outcome.code
          ∧ invocation.outcome.output = other.outcome.output
  := by
  refine ⟨?_, invocation.code_eq_zero_iff, ?_, ?_, ?_⟩
  · intro result
    constructor
    · rintro rfl
      obtain ⟨result, hends⟩ := invocation.exists_ends
      rwa [hends.result_eq]
    · apply Ends.result_eq
  · intro html hhtml
    rw [Outcome.code, Outcome.output, hhtml.result_eq]
    exact ⟨rfl, rfl⟩
  · intro error herror
    rw [Outcome.code, Outcome.output, Outcome.errorOutput, herror.result_eq]
    exact ⟨rfl, rfl, rfl⟩
  · intro other text htext hother
    have hsame := invocation.result_eq_of_reads htext hother
    rw [Outcome.code, Outcome.code, Outcome.output, Outcome.output, hsame]
    exact ⟨rfl, rfl⟩

/-- A document that says hello. -/
def helloText : String :=
  "\x7b\"type\":\"doc\",\"content\":[\x7b\"type\":\"text\",\"text\":\"hi\"\x7d]\x7d"

/-- The node of the document that says hello. -/
def hello : Node := .block "doc" [Node.ofText "hi"]

/-- A run without a configuration file. -/
def plainRun : Invocation where
  surroundings := ⟨"/home/ada", fun _ => none⟩
  configFile := .error .notFound
  read path := if path = "hello.json" then .ok helloText else .error .notFound
  arguments := ["hello.json"]

/-- A run with options, and with a configuration file that settles nothing. -/
def quietRun : Invocation where
  surroundings := ⟨"/home/bob", fun _ => none⟩
  configFile := .ok "# no settings\n[theme]\n"
  read path := if path = "/tmp/hello.json" then .ok helloText else .error .isDirectory
  arguments := ["--no-diagnostics", "/tmp/hello.json", "--name", "--quiet"]

/-- A run that asks for a document that is not there. -/
def lostRun : Invocation := { plainRun with arguments := ["bye.json"] }

theorem documentOfText_helloText :
  Chat.schema.documentOfText helloText = .ok hello
  := by
  rw [Schema.documentOfText, SourceNode.ofText, Json.Outline.ofText_eq, helloText]
  simp [Json.Outline.skipBlanks, Json.Outline.isBlank, List.dropWhile, Json.Outline.scanQuotation,
    Json.Quotation.scan, Json.Outline.fieldsBehindName, Json.Quotation.cons,
    Json.Outline.fieldsBehind]
  rfl

theorem plainRun_and_quietRun_print_and_lostRun_fails :
  (plainRun.Reads helloText ∧ quietRun.Reads helloText ∧ plainRun.Ends (.ok "hi")
      ∧ plainRun.outcome.code = 0 ∧ plainRun.outcome.output = "hi\n"
      ∧ quietRun.outcome.code = 0 ∧ quietRun.outcome.output = "hi\n")
    ∧ lostRun.Ends (.error (.file "bye.json" .notFound))
      ∧ lostRun.outcome.code = 1 ∧ lostRun.outcome.output = ""
  := by
  have hplain : plainRun.Reads helloText := by
    use ⟨"hello.json", none, none⟩, Config.default, by decide +kernel, .absent rfl
    rfl
  have hquiet : quietRun.Reads helloText := by
    have harguments : Arguments.read quietRun.arguments
        = .ok ⟨"/tmp/hello.json", some false, some "--quiet"⟩ := by
      decide +kernel
    have hsettings : (Toml.parse "# no settings\n[theme]\n").bind Config.ofToml
        = some Config.default := by
      decide +kernel
    obtain ⟨table, htable, hconfig⟩ := Option.bind_eq_some_iff.mp hsettings
    use ⟨"/tmp/hello.json", some false, some "--quiet"⟩, Config.default, harguments,
      .valid htable hconfig
    rfl
  have hends : plainRun.Ends (.ok "hi") := by
    have hhtml : Element.htmlAll (Chat.schema.referenceAll hello.content) = "hi" := by
      rfl
    rw [← hhtml]
    apply Ends.printed hplain documentOfText_helloText
    decide
  have hlost : lostRun.Ends (.error (.file "bye.json" .notFound)) := by
    have harguments : Arguments.read lostRun.arguments = .ok ⟨"bye.json", none, none⟩ := by
      decide +kernel
    apply Ends.file harguments (.absent rfl) rfl rfl
  obtain ⟨_, _, hprints, _, hsame⟩ := plainRun.ends_at_first_failing_stage
  obtain ⟨hcode, houtput⟩ := hprints _ hends
  obtain ⟨hcodes, houtputs⟩ := hsame quietRun helloText hplain hquiet
  obtain ⟨_, _, _, hfails, _⟩ := lostRun.ends_at_first_failing_stage
  obtain ⟨hfailure, hnothing, _⟩ := hfails _ hlost
  exact ⟨⟨hplain, hquiet, hends, hcode, houtput, hcodes ▸ hcode, houtputs ▸ houtput⟩,
    hlost, hfailure, hnothing⟩

end Invocation

end Command

end RichText
