import Ipv4Router.RouteFile
import Ipv4Router.RouterRun
import Ipv4Router.Proofs.AbandonedSenders
import Ipv4Router.Proofs.AddressGrammar
import Ipv4Router.Proofs.Amplification
import Ipv4Router.Proofs.ArpAnswers
import Ipv4Router.Proofs.ArpPacketForms
import Ipv4Router.Proofs.CheckedTurns
import Ipv4Router.Proofs.CorruptedWords
import Ipv4Router.Proofs.DatagramLedger
import Ipv4Router.Proofs.DroppedFrames
import Ipv4Router.Proofs.ForwardedFrames
import Ipv4Router.Proofs.IndependentFields
import Ipv4Router.Proofs.LinkIndifference
import Ipv4Router.Proofs.LoadedRoutes
import Ipv4Router.Proofs.LongestPrefix
import Ipv4Router.Proofs.NeighborHistory
import Ipv4Router.Proofs.NextHopProvenance
import Ipv4Router.Proofs.OriginatedMessages
import Ipv4Router.Proofs.PaddingIndifference
import Ipv4Router.Proofs.PrintedRoutes
import Ipv4Router.Proofs.RacingReplies
import Ipv4Router.Proofs.RepeatedSweeps
import Ipv4Router.Proofs.RequestSpacing
import Ipv4Router.Proofs.Responses
import Ipv4Router.Proofs.RetransmissionSchedule
import Ipv4Router.Proofs.RewrittenMessages
import Ipv4Router.Proofs.SilentNetwork
import Ipv4Router.Proofs.TransparentWaiting
import Ipv4Router.Proofs.WireFrames
import Ipv4Router.Proofs.WrittenHeaders
