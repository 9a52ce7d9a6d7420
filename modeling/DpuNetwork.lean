import DpuNetwork.Host.Scripted
import DpuNetwork.Json.Printer
import DpuNetwork.Main
import DpuNetwork.Schedule
import DpuNetwork.Proofs.Agent
import DpuNetwork.Proofs.Cluster.Answers
import DpuNetwork.Proofs.Config.Loading
import DpuNetwork.Proofs.Course.Bookkeeping
import DpuNetwork.Proofs.Course.Gate
import DpuNetwork.Proofs.Course.Lookups
import DpuNetwork.Proofs.GatewayOptions
import DpuNetwork.Proofs.Idempotence.SecondPass
import DpuNetwork.Proofs.Ipv4.NetworkOf
import DpuNetwork.Proofs.Kernel.Addresses
import DpuNetwork.Proofs.Kernel.Routes
import DpuNetwork.Proofs.Kernel.Rules
import DpuNetwork.Proofs.Program.Bound
import DpuNetwork.Proofs.Program.Outcome
import DpuNetwork.Proofs.Retry.Confluence
import DpuNetwork.Proofs.Routing.HostBits
import DpuNetwork.Proofs.Routing.Reach
import DpuNetwork.Proofs.Schedule
import DpuNetwork.Proofs.Throttle
