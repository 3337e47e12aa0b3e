import RichText.Describe
import RichText.Main
import RichText.OutputSpec.Notation
import RichText.Proofs.ChatDocuments
import RichText.Proofs.Decoding
import RichText.View
import RichText.Proofs.CanonicalValues
import RichText.Proofs.Notation
import RichText.Proofs.Steps
import RichText.Proofs.Diagnostics
import RichText.Proofs.Conservation
import RichText.Proofs.ClickHandlers
import RichText.Proofs.ChatDiagnostics
import RichText.Proofs.ChatTexts
import RichText.Proofs.Tags
import RichText.Proofs.ChatMarkup
import RichText.Proofs.FieldOrder
import RichText.Proofs.Readers
import RichText.Proofs.Outlines
import RichText.Proofs.Runs
import RichText.Proofs.FirstFault
import RichText.Proofs.Dependence
import RichText.Proofs.UnknownTypes
import RichText.Proofs.SpecFaults
import RichText.Proofs.SpecGrammar
import RichText.Proofs.SpecBuilders
import RichText.Proofs.Outcomes
import RichText.Proofs.MarkSpecs
import RichText.Proofs.Composition
import RichText.Proofs.Flattening
import RichText.Proofs.PlainText
import RichText.Proofs.ResolvedNodes
import RichText.Proofs.ResolutionFaults
import RichText.Proofs.ArgumentItems
import RichText.Proofs.QuotedStrings
import RichText.Proofs.SavedFiles
import RichText.Proofs.KeyLines
import RichText.Proofs.SavedConfig
import RichText.Proofs.FactoryTables
