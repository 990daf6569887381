import CnwanOperator.Go.Strings
import CnwanOperator.Go.Map
import CnwanOperator.Go.Errors
import CnwanOperator.Option
import CnwanOperator.Command.Precedence
import CnwanOperator.Command.Utils
import CnwanOperator.Command.Caches
import CnwanOperator.Command.Root
import CnwanOperator.Command.RootCommand
import CnwanOperator.Command.Etcd.Merge
import CnwanOperator.Command.Etcd.Credentials
import CnwanOperator.Command.Etcd.Command
import CnwanOperator.Option.EtcdCli
import CnwanOperator.Command.ServiceDirectory
import CnwanOperator.Command.ServiceDirectoryCommand
import CnwanOperator.Command.Gce
import CnwanOperator.Command.Execute
import CnwanOperator.Settings.Operator
import CnwanOperator.ServRegistry.Etcd.Utils
import CnwanOperator.ServRegistry.ServiceDirectory.Service
import CnwanOperator.ServRegistry.ServiceDirectory.Directory
import CnwanOperator.Contracts.EtcdPrefix
import CnwanOperator.Contracts.OperatorSettings
import CnwanOperator.Contracts.Registry
import CnwanOperator.Controllers.Utils
import CnwanOperator.Contracts.Execution
import CnwanOperator.Reflect.CloudMetadata
