import CascadingForms.Files.Directory
import CascadingForms.Main
import CascadingForms.Preview.Json
import CascadingForms.Preview.Screen
import CascadingForms.Proofs.Texts
import CascadingForms.Proofs.Lineages
import CascadingForms.Proofs.MenuPaths
import CascadingForms.Proofs.SelectorLevels
import CascadingForms.Proofs.SelectorPositions
import CascadingForms.Proofs.FormChain
import CascadingForms.Proofs.Decoding
import CascadingForms.Proofs.PostedSelector
import CascadingForms.Proofs.DecoderSoundness
import CascadingForms.Proofs.FieldsRead
import CascadingForms.Proofs.TeacherQueries
import CascadingForms.Proofs.StrictReading
import CascadingForms.Proofs.WrittenValues
import CascadingForms.Proofs.WrittenDrafts
import CascadingForms.Proofs.Inheritance
import CascadingForms.Proofs.WellFormedMenus
import CascadingForms.Proofs.HtmlTokens
import CascadingForms.Proofs.HtmlControls
import CascadingForms.Proofs.HtmlFields
import CascadingForms.Proofs.SelectorRefusals
import CascadingForms.Proofs.PreviewRuns
import CascadingForms.Proofs.Warnings
import CascadingForms.Proofs.RememberedSelections
import CascadingForms.Proofs.RestoredPreviews
import CascadingForms.Proofs.DecodedLeaves
import CascadingForms.Proofs.ShownControls
import CascadingForms.Proofs.TemplatePaths
import CascadingForms.Proofs.MenuJson
import CascadingForms.Proofs.ScreenRuns
import CascadingForms.Proofs.RestoreOutcomes
import CascadingForms.Proofs.CheckedMenus
import CascadingForms.Proofs.LocatedIssues
import CascadingForms.Proofs.CommandArguments
import CascadingForms.Proofs.Completions
import CascadingForms.Proofs.AgreeingViews
import CascadingForms.Proofs.AddedEntries
import CascadingForms.Proofs.UnknownFields
import CascadingForms.Proofs.JoinedPaths
import CascadingForms.Proofs.MessageCauses
