import StatusPanel.Floating.Integer
import StatusPanel.Floating.Bits
import StatusPanel.Decimal.Shortest
import StatusPanel.Bytes
import StatusPanel.Text.Quoted
import StatusPanel.Json.Skipped
import StatusPanel.Document.Reader
import StatusPanel.Document.Resolution
import StatusPanel.Settings
import StatusPanel.Sha256
import StatusPanel.Widget.Placement
import StatusPanel.Font.CharacterMap
import StatusPanel.Font.Kerning
import StatusPanel.Font.Outline
import StatusPanel.Picture.Footprint
import StatusPanel.Widget.Painting
import StatusPanel.Panel
import StatusPanel.Png.Reader
import StatusPanel.Png.Writer
import StatusPanel.Frame.Reader
import StatusPanel.Frame.Writer
import StatusPanel.Session.Conversation
import StatusPanel.Main
import StatusPanel.Proofs.Painting
import StatusPanel.Proofs.Clipping
import StatusPanel.Proofs.Overpainting
import StatusPanel.Proofs.Streams
import StatusPanel.Proofs.OutputFailure
import StatusPanel.Proofs.Service
import StatusPanel.Proofs.Alternation
import StatusPanel.Proofs.Paging
import StatusPanel.Proofs.TwoTone
import StatusPanel.Proofs.Skipping
import StatusPanel.Proofs.DocumentReading
import StatusPanel.Proofs.Schema
import StatusPanel.Proofs.Stages
import StatusPanel.Proofs.FontKeeping
import StatusPanel.Proofs.Counting
import StatusPanel.Proofs.ExactValues
import StatusPanel.Proofs.PixelCentres
import StatusPanel.Proofs.GaugeColumns
import StatusPanel.Proofs.Centering
import StatusPanel.Proofs.WholeParts
import StatusPanel.Proofs.PixelBoxes
import StatusPanel.Proofs.MeasuredText
import StatusPanel.Proofs.Delivery
